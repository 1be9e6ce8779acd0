import LspWire.Proofs.BaseReading
import LspWire.Proofs.ReadingRun
import LspWire.Proofs.UnionChoice
import LspWire.Schema.Codec

/-! Types that are written as they are read.
A type is faithful when every field is written under the key it is read from, an absent one is left
out, no two fields share a key, no required field may be supplied by its type, and no number is
made binary. The object of a faithful record then holds under each key what the field is written
as. -/

namespace LspWire

def FieldMode.mayBeAbsent : FieldMode → Bool
  | .required | .nullable => false
  | .optional | .optionalNullable => true

def FieldForm.faithful (form : FieldForm) (type : Schema) : Bool :=
  form.written == form.key && form.leftOut == form.mode.mayBeAbsent &&
    !(form.mode == .required && type.suppliesAbsent)

mutual

def Schema.faithful : Schema → Bool
  | .decimal => false
  | .list item | .map item | .nullable item => item.faithful
  | .record _ fields => fields.faithful
  | .union _ variants | .marked _ _ variants => variants.faithful
  | _ => true

def Fields.faithful : Fields → Bool
  | .nil => true
  | .cons form type rest =>
    form.faithful type && type.faithful && !rest.keys.contains form.key && rest.faithful

def Variants.faithful : Variants → Bool
  | .nil => true
  | .cons _ _ _ type rest => type.faithful && rest.faithful

end

namespace Schema

theorem encode_list (item : Schema) (items : List item.Val) :
    (Schema.list item).encode items = .array (items.map item.encode) := by
  change Json.array (Json.sortedItems (items.map item.write)) = _
  rw [Json.sortedItems_eq_map, List.map_map]
  rfl

theorem encode_map (item : Schema) (entries : List (String × item.Val)) :
    (Schema.map item).encode entries =
      .object (Members.ordered (entries.map fun entry => (entry.1, item.encode entry.2))) := by
  change Json.object (Members.ordered (Json.sortedMembers
    (entries.map fun entry => (entry.1, item.write entry.2)))) = _
  rw [Json.sortedMembers_eq_map, List.map_map]
  rfl

end Schema

theorem FieldMode.mayBeAbsent_of_write {α : Type} {mode : FieldMode} {write : α → Json}
    {a : mode.Of α} (h : mode.write write a = none) : mode.mayBeAbsent = true := by
  cases mode with
  | required => cases h
  | nullable => cases a <;> cases h
  | optional => rfl
  | optionalNullable => rfl

theorem FieldForm.get?_member? {form : FieldForm} {type : Schema}
    (hform : form.faithful type = true) (a : form.mode.Of type.Val) :
    Members.get? (form.member? (form.mode.write type.write a)).toList form.key =
      form.mode.write type.write a := by
  simp only [FieldForm.faithful, Bool.and_eq_true, Bool.not_eq_true', beq_iff_eq] at hform
  obtain ⟨⟨hwritten, hleftOut⟩, -⟩ := hform
  cases hpiece : form.mode.write type.write a with
  | none =>
    have hleft : form.leftOut = true := hleftOut.trans (FieldMode.mayBeAbsent_of_write hpiece)
    rw [FieldForm.member?, if_pos hleft]
    rfl
  | some value =>
    rw [FieldForm.member?, Option.toList_some, Members.get?_cons, if_pos hwritten]

theorem FieldForm.required_of_faithful {form : FieldForm} {type : Schema}
    (h : form.faithful type = true) : (form.mode == .required && type.suppliesAbsent) = false := by
  simp only [FieldForm.faithful, Bool.and_eq_true, Bool.not_eq_true'] at h
  exact h.2

theorem FieldForm.names_member? (form : FieldForm) (value : Option Json) :
    Members.names (form.member? value).toList = [] ∨
      Members.names (form.member? value).toList = [form.written] := by
  cases value with
  | none =>
    rw [FieldForm.member?]
    split
    · exact .inl rfl
    · exact .inr rfl
  | some value => exact .inr rfl

theorem Fields.faithful_cons {form : FieldForm} {type : Schema} {rest : Fields} :
    (Fields.cons form type rest).faithful = true ↔
      form.faithful type = true ∧ type.faithful = true ∧ form.key ∉ rest.keys ∧
        rest.faithful = true := by
  simp [Fields.faithful, and_assoc]

theorem FieldForm.written_of_faithful {form : FieldForm} {type : Schema}
    (h : form.faithful type = true) : form.written = form.key := by
  simp only [FieldForm.faithful, Bool.and_eq_true, beq_iff_eq] at h
  exact h.1.1

theorem Fields.names_write_sublist : ∀ (fields : Fields), fields.faithful = true →
    ∀ values : fields.Val, (Members.names (fields.write values)).Sublist fields.keys
  | .nil, _, _ => List.Sublist.slnil
  | .cons form type rest, h, (value, values) => by
    obtain ⟨hform, -, -, hrest⟩ := Fields.faithful_cons.mp h
    have ih := Fields.names_write_sublist rest hrest values
    have hnames : Members.names ((Fields.cons form type rest).write (value, values)) =
        Members.names (form.member? (form.mode.write type.write value)).toList ++
          Members.names (rest.write values) := List.map_append
    rw [hnames, Fields.keys]
    rcases form.names_member? (form.mode.write type.write value) with hnone | hsome
    · rw [hnone]
      exact ih.cons _
    · rw [hsome, form.written_of_faithful hform]
      exact ih.cons_cons _

theorem Fields.keys_nodup : ∀ fields : Fields, fields.faithful = true → fields.keys.Nodup
  | .nil, _ => List.Pairwise.nil
  | .cons form type rest, h => by
    obtain ⟨-, -, hkey, hrest⟩ := Fields.faithful_cons.mp h
    exact List.nodup_cons.mpr ⟨hkey, Fields.keys_nodup rest hrest⟩

theorem Fields.names_write_nodup (fields : Fields) (h : fields.faithful = true)
    (values : fields.Val) : (Members.names (fields.write values)).Nodup :=
  (fields.names_write_sublist h values).nodup (fields.keys_nodup h)

theorem Fields.get?_write_of_notMem (fields : Fields) (h : fields.faithful = true)
    (values : fields.Val) {key : String} (hkey : key ∉ fields.keys) :
    Members.get? (fields.write values) key = none := by
  rw [Members.get?_eq_none_iff]
  exact fun hm => hkey ((fields.names_write_sublist h values).subset hm)

theorem Fields.get?_write_cons {form : FieldForm} {type : Schema} {rest : Fields}
    (h : (Fields.cons form type rest).faithful = true) (value : form.mode.Of type.Val)
    (values : rest.Val) {key : String} :
    Members.get? ((Fields.cons form type rest).write (value, values)) key =
      if key = form.key then form.mode.write type.write value
      else Members.get? (rest.write values) key := by
  obtain ⟨hform, -, hkey, hrest⟩ := Fields.faithful_cons.mp h
  have happend : Members.get? ((Fields.cons form type rest).write (value, values)) key =
      (Members.get? (form.member? (form.mode.write type.write value)).toList key).or
        (Members.get? (rest.write values) key) := Members.get?_append _ _ _
  rw [happend]
  split
  · next heq =>
    rw [heq, Fields.get?_write_of_notMem rest hrest values hkey, Option.or_none,
      FieldForm.get?_member? hform]
  · next hne =>
    have hnone :
        Members.get? (form.member? (form.mode.write type.write value)).toList key = none := by
      rw [Members.get?_eq_none_iff]
      rcases form.names_member? (form.mode.write type.write value) with hnames | hnames
      · simp [hnames]
      · simpa [hnames, form.written_of_faithful hform] using hne
    rw [hnone, Option.none_or]

end LspWire
