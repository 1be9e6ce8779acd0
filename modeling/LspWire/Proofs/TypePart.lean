import LspWire.Proofs.BaseReading
import LspWire.Proofs.ReadingRun

/-! The parts of a type.
The items of a list, the entries of a map, the fields of a record and the variants of a union are
of types of their own. What holds of a type whenever it holds of its parts holds of every type, and
what a container refuses is missing from it or refused by a part. -/

namespace LspWire

/-- The fields as they are read: key, mode and type. -/
def Fields.readings : Fields → List (String × FieldMode × Schema)
  | .nil => []
  | .cons form type rest => (form.key, form.mode, type) :: rest.readings

theorem Fields.keys_eq_map : ∀ fields : Fields, fields.keys = fields.readings.map (·.1)
  | .nil => rfl
  | .cons form _ rest => congrArg (form.key :: ·) (keys_eq_map rest)

theorem Fields.mem_keys_iff {fields : Fields} {key : String} :
    key ∈ fields.keys ↔ ∃ mode type, (key, mode, type) ∈ fields.readings := by
  simp [keys_eq_map]

def Variants.types : Variants → List Schema
  | .nil => []
  | .cons _ _ _ type rest => type :: rest.types

def Variants.typeOf? : Variants → Option String → Option Schema
  | .nil, _ => none
  | .cons _ _ mark type rest, word => if mark = word then some type else rest.typeOf? word

theorem Variants.mem_types_of_typeOf? {word : Option String} {found : Schema} :
    ∀ {variants : Variants}, variants.typeOf? word = some found → found ∈ variants.types
  | .nil, h => by cases h
  | .cons _ _ mark type rest, h => by
    rw [typeOf?] at h
    split at h
    · cases h; exact List.mem_cons_self
    · exact List.mem_cons_of_mem _ (mem_types_of_typeOf? h)

@[elab_as_elim]
theorem Schema.parts_induction {P : Schema → Prop} (boolean : P .boolean) (string : P .string)
    (integer : P .integer) (uinteger : P .uinteger) (decimal : P .decimal) (any : P .any)
    (object : P .object) (null : P .null) (noParams : P .noParams)
    (numberOrString : P .numberOrString) (literal : ∀ name word, P (.literal name word))
    (integerEnum : ∀ e, P (.integerEnum e)) (wordEnum : ∀ e, P (.wordEnum e))
    (openEnum : ∀ e, P (.openEnum e)) (list : ∀ item, P item → P (.list item))
    (map : ∀ item, P item → P (.map item)) (nullable : ∀ item, P item → P (.nullable item))
    (record : ∀ name fields, (∀ entry ∈ fields.readings, P entry.2.2) → P (.record name fields))
    (union : ∀ name variants, (∀ type ∈ variants.types, P type) → P (.union name variants))
    (marked : ∀ name key variants, (∀ type ∈ variants.types, P type) →
      P (.marked name key variants)) (s : Schema) : P s := by
  refine @Schema.rec P (fun fields => ∀ entry ∈ fields.readings, P entry.2.2)
    (fun variants => ∀ type ∈ variants.types, P type) boolean string integer uinteger decimal any
    object null noParams numberOrString literal integerEnum wordEnum openEnum list map nullable
    record union marked ?_ ?_ ?_ ?_ s
  · exact fun _ h => (by cases h)
  · intro form type rest htype hrest
    exact List.forall_mem_cons.mpr ⟨htype, hrest⟩
  · exact fun _ h => (by cases h)
  · intro name label mark type rest htype hrest
    exact List.forall_mem_cons.mpr ⟨htype, hrest⟩

/-- What an object answers to the call for a field, on a fresh reader. -/
def Members.answer (members : Members) (cx : Context) (entry : String × FieldMode × Schema) :
    Except DecodeError (entry.2.1.Of entry.2.2.Val) :=
  ((Reading.access entry.1 (entry.2.1.reader entry.2.2.decoder entry.1)).run
    ⟨members, cx, []⟩).1

def Fields.Holds (members : Members) (cx : Context) : (fields : Fields) → fields.Val → Prop
  | .nil, _ => True
  | .cons form type rest, (value, values) =>
    members.answer cx (form.key, form.mode, type) = .ok value ∧ rest.Holds members cx values

section

variable {members : Members} {cx : Context}

theorem Fields.collect_eq_ok_iff : ∀ {fields : Fields} {values : fields.Val},
    fields.collect members cx = .ok values ↔ fields.Holds members cx values
  | .nil, () => ⟨fun _ => trivial, fun _ => rfl⟩
  | .cons _ _ _, (_, _) =>
    collect_cons_eq_ok_iff.trans (and_congr_right fun _ => collect_eq_ok_iff)

theorem Fields.map_collect_eq_mapM : ∀ fields : Fields,
    (fields.collect members cx).map (fun _ => ()) =
      (fields.readings.mapM fun entry => (members.answer cx entry).map fun _ => ()).map
        fun _ => ()
  | .nil => rfl
  | .cons form type rest => by
    -- The values are of different types, so the lists of them are compared without the values.
    have hrest := rest.map_collect_eq_mapM
    change Except.map _ (members.answer cx (form.key, form.mode, type) >>= fun value =>
        rest.collect members cx >>= fun values => pure (value, values)) =
      Except.map _ (List.mapM _ ((form.key, form.mode, type) :: rest.readings))
    rw [List.mapM_cons]
    cases members.answer cx (form.key, form.mode, type) with
    | error e => rfl
    | ok value =>
      cases hcollect : rest.collect members cx with
      | error e =>
        rw [hcollect] at hrest
        rw [map_eq_error_iff.mp hrest.symm]
        rfl
      | ok values =>
        rw [hcollect] at hrest
        obtain ⟨units, hunits, -⟩ := map_eq_ok_iff.mp hrest.symm
        rw [hunits]
        rfl

theorem Fields.collect_eq_error_iff {fields : Fields} {e : DecodeError} :
    fields.collect members cx = .error e ↔ ∃ (i : Nat) (entry : String × FieldMode × Schema),
      fields.readings[i]? = some entry ∧ members.answer cx entry = .error e ∧
        ∀ j < i, ∀ other, fields.readings[j]? = some other →
          ∃ a, members.answer cx other = .ok a := by
  rw [← map_eq_error_iff (f := fun _ => ()), map_collect_eq_mapM, map_eq_error_iff,
    mapM_eq_error_iff]
  simp only [map_eq_error_iff, exists_map_eq_ok_iff]

theorem Fields.exists_collect_eq_ok_iff {fields : Fields} :
    (∃ values, fields.collect members cx = .ok values) ↔
      ∀ entry ∈ fields.readings, ∃ a, members.answer cx entry = .ok a := by
  rw [← exists_map_eq_ok_iff (f := fun _ => ()), map_collect_eq_mapM, exists_map_eq_ok_iff,
    exists_mapM_eq_ok_iff]
  simp only [exists_map_eq_ok_iff]

end

theorem FieldMode.reader_eq_error {mode : FieldMode} {type : Schema} {key : String}
    {held : Option Json} {cx : Context} {e : DecodeError}
    (h : mode.reader type.decoder key held cx = .error e) :
    held = none ∧ e = cx.missing key ∨
      ∃ value, held = some value ∧ type.decoder.decode value (cx.field key) = .error e := by
  cases held with
  | none =>
    refine .inl ⟨rfl, ?_⟩
    cases mode with
    | required => cases type <;> cases h <;> rfl
    | nullable => cases h; rfl
    | optional => cases h
    | optionalNullable => cases h
  | some value =>
    refine .inr ⟨value, rfl, ?_⟩
    cases mode with
    | required => exact h
    | optional => exact map_eq_error_iff.mp h
    | nullable => cases value with
      | null => cases h
      | _ => exact map_eq_error_iff.mp h
    | optionalNullable => cases value with
      | null => cases h
      | _ => exact map_eq_error_iff.mp h

theorem Fields.collect_congr {members others : Members} {cx cx' : Context} : ∀ {fields : Fields},
    (∀ entry ∈ fields.readings,
      entry.2.1.reader entry.2.2.decoder entry.1 (members.get? entry.1) cx =
        entry.2.1.reader entry.2.2.decoder entry.1 (others.get? entry.1) cx') →
      fields.collect members cx = fields.collect others cx'
  | .nil, _ => rfl
  | .cons form type rest, h => by
    rw [readings, List.forall_mem_cons] at h
    rw [collect, collect, h.1, collect_congr h.2]

theorem Variants.exists_type_of_error {word : Option String} {value : Json} {cx : Context}
    {e : DecodeError} : ∀ {variants : Variants}
      {decode : Json → Context → Except DecodeError variants.Val},
        variants.select word = some decode → decode value cx = .error e →
          ∃ type, variants.typeOf? word = some type ∧ type.decoder.decode value cx = .error e
  | .nil, _, hselect, _ => by cases hselect
  | .cons _ _ mark type rest, decode, hselect, h => by
    rw [Variants.select] at hselect
    rw [typeOf?]
    split at hselect
    · next hmark =>
      cases hselect
      exact ⟨type, if_pos hmark, map_eq_error_iff.mp h⟩
    · next hmark =>
      obtain ⟨inner, hinner, rfl⟩ := Option.map_eq_some_iff.mp hselect
      obtain ⟨found, hfound, hread⟩ := exists_type_of_error hinner (map_eq_error_iff.mp h)
      exact ⟨found, (if_neg hmark).trans hfound, hread⟩

end LspWire
