import LspWire.Proofs.OrderlyType
import LspWire.Proofs.PartsInOrder

/-! The values that survive being written and read.
A value of a type is valid when its maps are in order and its parts kept as JSON are well formed; it
is canonical when moreover no number in it is beyond what a reader admits, no word in it that is
its own stands for a listed one, and there is no empty list of links where a definition could be.
A canonical value is read back from its encoding on any terms; whatever is read is canonical. -/

namespace LspWire

/-- What a field holds unless it is absent or null. -/
def FieldMode.value? {α : Type} : (mode : FieldMode) → mode.Of α → Option α
  | .required, a => some a
  | .optional, a => a
  | .nullable, .null => none
  | .nullable, .value a => some a
  | .optionalNullable, .absent => none
  | .optionalNullable, .null => none
  | .optionalNullable, .value a => some a

mutual

def Schema.Everywhere (p : (s : Schema) → s.Val → Prop) : (s : Schema) → s.Val → Prop
  | .list item => fun (items : List item.Val) =>
    p (.list item) items ∧ ∀ x ∈ items, item.Everywhere p x
  | .map item => fun (entries : List (String × item.Val)) =>
    p (.map item) entries ∧ ∀ entry ∈ entries, item.Everywhere p entry.2
  | .nullable item => fun (x : Nullable item.Val) =>
    p (.nullable item) x ∧ ∀ a, x = .value a → item.Everywhere p a
  | .record name fields => fun values => p (.record name fields) values ∧ fields.Everywhere p values
  | .union name variants => fun x => p (.union name variants) x ∧ variants.Everywhere p x
  | .marked name key variants => fun x =>
    p (.marked name key variants) x ∧ variants.Everywhere p x
  | s => p s

def Fields.Everywhere (p : (s : Schema) → s.Val → Prop) : (fields : Fields) → fields.Val → Prop
  | .nil => fun _ => True
  | .cons form type rest => fun (value, values) =>
    (∀ a, form.mode.value? value = some a → type.Everywhere p a) ∧ rest.Everywhere p values

def Variants.Everywhere (p : (s : Schema) → s.Val → Prop) :
    (variants : Variants) → variants.Val → Prop
  | .nil => Empty.elim
  | .cons _ _ _ type rest => Sum.elim (type.Everywhere p) (rest.Everywhere p)

end

namespace Schema

/-- Maps are in order, and so is what is kept as JSON. -/
def ValidPart : (s : Schema) → s.Val → Prop
  | .any => fun (value : Json) => value.WellFormed
  | .object => fun (members : Members) => (Json.object members).WellFormed
  | .map item => fun (entries : List (String × item.Val)) => Ascending entries
  | _ => fun _ => True

/-- The number can be read, the word is not listed, the empty list of links is not there. -/
def CanonicalPart : (s : Schema) → s.Val → Prop
  | .uinteger => fun (n : UInt32) => (n.toNat : Int) ≤ IntegerRange.uinteger.greatest
  | .openEnum e => fun (w : OpenWord e) => ∀ word, w = .custom word → e.ofWord? word = none
  | .union name variants => fun x =>
    ¬(name = "DefinitionResult" ∧ variants.emptyUnder "Links" x = true)
  | _ => fun _ => True

def Valid (s : Schema) (x : s.Val) : Prop := s.Everywhere ValidPart x

def Canonical (s : Schema) (x : s.Val) : Prop := s.Everywhere CanonicalPart x

end Schema

theorem FieldMode.value?_of_reader {mode : FieldMode} {type : Schema}
    (hmode : (mode == .required && type.suppliesAbsent) = false) {key : String}
    {held : Option Json} {cx : Context} {a : mode.Of type.Val}
    (ha : mode.reader type.decoder key held cx = .ok a) {x : type.Val}
    (hx : mode.value? a = some x) :
    ∃ value, held = some value ∧ type.decoder.decode value (cx.field key) = .ok x := by
  cases mode with
  | required =>
    cases hx
    cases held with
    | none =>
      have habsent : type.suppliesAbsent = false := by simpa using hmode
      change type.decoder.absent key cx = .ok x at ha
      rw [Schema.decoder_absent habsent] at ha
      cases ha
    | some value => exact ⟨value, rfl, ha⟩
  | optional =>
    cases held with
    | none => cases ha; cases hx
    | some value =>
      obtain ⟨y, hy, rfl⟩ := map_eq_ok_iff.mp ha
      cases hx
      exact ⟨value, rfl, hy⟩
  | nullable =>
    rcases FieldReader.nullable_eq_ok_iff.mp ha with ⟨-, rfl⟩ | ⟨value, y, hvalue, -, hy, rfl⟩
    · cases hx
    · cases hx
      exact ⟨value, hvalue, hy⟩
  | optionalNullable =>
    rcases FieldReader.optionalNullable_eq_ok_iff.mp ha with
      ⟨-, rfl⟩ | ⟨-, rfl⟩ | ⟨value, y, hvalue, -, hy, rfl⟩
    · cases hx
    · cases hx
    · cases hx
      exact ⟨value, hvalue, hy⟩

/-- Holds of whatever is read, at its own type, by a type that loses nothing and is orderly. -/
def Schema.HoldsOfRead (p : (s : Schema) → s.Val → Prop) : Prop :=
  ∀ (s : Schema) (value : Json) (cx : Context) (x : s.Val), s.faithful = true → s.orderly = true →
    value.WellFormed → s.decoder.decode value cx = .ok x → p s x

section

variable {p : (s : Schema) → s.Val → Prop}

mutual

theorem Schema.everywhere_of_decode (hp : Schema.HoldsOfRead p) : ∀ s : Schema,
    s.faithful = true → s.orderly = true → ∀ {value : Json} {cx : Context} {x : s.Val},
      value.WellFormed → s.decoder.decode value cx = .ok x → s.Everywhere p x
  | .list item, hs, ho, value, cx, xs, hvalue, h => by
    refine ⟨hp (.list item) value cx xs hs ho hvalue h, fun x hx => ?_⟩
    cases value with
    | array items =>
      obtain ⟨found, hfound, position, hread⟩ := Decoder.exists_item_of_mem h hx
      have hwf := (Json.wellFormed_array_iff items).mp hvalue found hfound
      exact Schema.everywhere_of_decode hp item hs ho hwf hread
    | _ => cases h
  | .map item, hs, ho, value, cx, entries, hvalue, h => by
    refine ⟨hp (.map item) value cx entries hs ho hvalue h, fun entry hentry => ?_⟩
    cases value with
    | object members =>
      obtain ⟨held, hheld, hread⟩ := Decoder.exists_member_of_mem h hentry
      have hwf := ((Json.wellFormed_object_iff members).mp hvalue).2 _ hheld
      exact Schema.everywhere_of_decode hp item hs ho hwf hread
    | _ => cases h
  | .nullable item, hs, ho, value, cx, x, hvalue, h => by
    refine ⟨hp (.nullable item) value cx x hs ho hvalue h, fun a ha => ?_⟩
    rw [Schema.orderly, Bool.and_eq_true] at ho
    cases value with
    | null => cases h; cases ha
    | _ =>
      obtain ⟨y, hy, rfl⟩ := map_eq_ok_iff.mp h
      cases ha
      exact Schema.everywhere_of_decode hp item hs ho.2 hvalue hy
  | .record name fields, hs, ho, value, cx, values, hvalue, h => by
    refine ⟨hp (.record name fields) value cx values hs ho hvalue h, ?_⟩
    obtain ⟨members, rfl, hcollect, -⟩ := fields.gives_read.decode_eq_ok_iff.mp h
    exact Fields.everywhere_of_collect hp fields hs ho hvalue hcollect
  | .union name variants, hs, ho, value, cx, x, hvalue, h => by
    refine ⟨hp (.union name variants) value cx x hs ho hvalue h, ?_⟩
    simp only [Schema.orderly, Bool.and_eq_true] at ho
    obtain ⟨a, ha, hx | hx⟩ := Schema.exists_alternative_of_decode h
    · exact Variants.everywhere_of_alternative hp variants hs ho.2 a ha hvalue hx
    · exact Variants.everywhere_of_alternative hp variants hs ho.2 a ha hvalue hx
  | .marked name key variants, hs, ho, value, cx, x, hvalue, h => by
    refine ⟨hp (.marked name key variants) value cx x hs ho hvalue h, ?_⟩
    rw [Schema.orderly, Bool.and_eq_true] at ho
    obtain ⟨word, decode, -, hselect, hx⟩ := Decoder.exists_select_of_marked h
    exact Variants.everywhere_of_select hp variants hs ho.2 word hselect hvalue hx
  | .boolean, hs, ho, value, cx, x, hvalue, h => hp .boolean value cx x hs ho hvalue h
  | .string, hs, ho, value, cx, x, hvalue, h => hp .string value cx x hs ho hvalue h
  | .integer, hs, ho, value, cx, x, hvalue, h => hp .integer value cx x hs ho hvalue h
  | .uinteger, hs, ho, value, cx, x, hvalue, h => hp .uinteger value cx x hs ho hvalue h
  | .decimal, hs, ho, value, cx, x, hvalue, h => hp .decimal value cx x hs ho hvalue h
  | .any, hs, ho, value, cx, x, hvalue, h => hp .any value cx x hs ho hvalue h
  | .object, hs, ho, value, cx, x, hvalue, h => hp .object value cx x hs ho hvalue h
  | .null, hs, ho, value, cx, x, hvalue, h => hp .null value cx x hs ho hvalue h
  | .noParams, hs, ho, value, cx, x, hvalue, h => hp .noParams value cx x hs ho hvalue h
  | .numberOrString, hs, ho, value, cx, x, hvalue, h =>
    hp .numberOrString value cx x hs ho hvalue h
  | .literal name word, hs, ho, value, cx, x, hvalue, h =>
    hp (.literal name word) value cx x hs ho hvalue h
  | .integerEnum e, hs, ho, value, cx, x, hvalue, h =>
    hp (.integerEnum e) value cx x hs ho hvalue h
  | .wordEnum e, hs, ho, value, cx, x, hvalue, h => hp (.wordEnum e) value cx x hs ho hvalue h
  | .openEnum e, hs, ho, value, cx, x, hvalue, h => hp (.openEnum e) value cx x hs ho hvalue h

theorem Fields.everywhere_of_collect (hp : Schema.HoldsOfRead p) : ∀ fields : Fields,
    fields.faithful = true → fields.orderly = true → ∀ {members : Members} {cx : Context}
      {values : fields.Val}, (Json.object members).WellFormed →
        fields.collect members cx = .ok values → fields.Everywhere p values
  | .nil, _, _, _, _, _, _, _ => trivial
  | .cons form type rest, hs, ho, members, cx, (value, values), hvalue, h => by
    obtain ⟨hform, htype, -, hrest⟩ := Fields.faithful_cons.mp hs
    simp only [Fields.orderly, Bool.and_eq_true] at ho
    obtain ⟨hread, hvalues⟩ := Fields.collect_cons_eq_ok_iff.mp h
    refine ⟨fun a ha => ?_, Fields.everywhere_of_collect hp rest hrest ho.2 hvalue hvalues⟩
    obtain ⟨held, hheld, hx⟩ :=
      FieldMode.value?_of_reader (FieldForm.required_of_faithful hform) hread ha
    exact Schema.everywhere_of_decode hp type htype ho.1.2 (hvalue.of_get? hheld) hx

theorem Variants.everywhere_of_alternative (hp : Schema.HoldsOfRead p) : ∀ variants : Variants,
    variants.faithful = true → variants.orderly = true → ∀ a ∈ variants.alternatives,
      ∀ {value : Json} {cx : Context} {x : variants.Val}, value.WellFormed →
        a.decode value cx = .ok x → variants.Everywhere p x
  | .nil, _, _, _, ha, _, _, _, _, _ => by cases ha
  | .cons _ _ _ type rest, hs, ho, a, ha, value, cx, x, hvalue, h => by
    simp only [Variants.faithful, Bool.and_eq_true] at hs
    simp only [Variants.orderly, Bool.and_eq_true] at ho
    rcases List.mem_cons.mp ha with rfl | ha
    · obtain ⟨y, hy, rfl⟩ := map_eq_ok_iff.mp h
      exact Schema.everywhere_of_decode hp type hs.1 ho.1 hvalue hy
    · obtain ⟨b, hb, rfl⟩ := List.mem_map.mp ha
      obtain ⟨y, hy, rfl⟩ := map_eq_ok_iff.mp h
      exact Variants.everywhere_of_alternative hp rest hs.2 ho.2 b hb hvalue hy

theorem Variants.everywhere_of_select (hp : Schema.HoldsOfRead p) : ∀ variants : Variants,
    variants.faithful = true → variants.orderly = true → ∀ (word : Option String)
      {decode : Json → Context → Except DecodeError variants.Val},
        variants.select word = some decode → ∀ {value : Json} {cx : Context} {x : variants.Val},
          value.WellFormed → decode value cx = .ok x → variants.Everywhere p x
  | .nil, _, _, _, _, hselect, _, _, _, _, _ => by cases hselect
  | .cons _ _ mark type rest, hs, ho, word, decode, hselect, value, cx, x, hvalue, h => by
    simp only [Variants.faithful, Bool.and_eq_true] at hs
    simp only [Variants.orderly, Bool.and_eq_true] at ho
    rw [Variants.select] at hselect
    split at hselect
    · cases hselect
      obtain ⟨y, hy, rfl⟩ := map_eq_ok_iff.mp h
      exact Schema.everywhere_of_decode hp type hs.1 ho.1 hvalue hy
    · obtain ⟨inner, hinner, rfl⟩ := Option.map_eq_some_iff.mp hselect
      obtain ⟨y, hy, rfl⟩ := map_eq_ok_iff.mp h
      exact Variants.everywhere_of_select hp rest hs.2 ho.2 word hinner hvalue hy

end

end

namespace Schema

theorem validPart_of_decode (s : Schema) {value : Json} {cx : Context} {x : s.Val}
    (hvalue : value.WellFormed) (h : s.decoder.decode value cx = .ok x) : s.ValidPart x := by
  cases s with
  | any => cases h; exact hvalue
  | object =>
    cases value with
    | object members => cases h; exact hvalue
    | _ => cases h
  | map item =>
    cases value with
    | object members =>
      have hnames := Decoder.names_of_decodeEntries h
      have hascending := ((Json.wellFormed_object_iff members).mp hvalue).1
      have hkeys : (List.map (·.1) (x : List (String × item.Val))).Pairwise (· < ·) := by
        rw [hnames]
        exact List.pairwise_map.mpr hascending
      exact List.pairwise_map.mp hkeys
    | _ => cases h
  | _ => trivial

theorem canonicalPart_of_decode (s : Schema) (hs : s.faithful = true) (ho : s.orderly = true)
    {value : Json} {cx : Context} {x : s.Val} (h : s.decoder.decode value cx = .ok x) :
    s.CanonicalPart x := by
  cases s with
  | uinteger => exact ((Decoder.uinteger_decode_eq_ok_iff value cx x).mp h).2
  | openEnum e =>
    obtain ⟨found, -, hfound⟩ := (Decoder.openEnum_decode_eq_ok_iff e value cx x).mp h
    intro word hword
    rw [hword, OpenWord.ofWord] at hfound
    split at hfound
    · cases hfound
    · next hnone => cases hfound; exact hnone
  | union name variants =>
    rintro ⟨hname, hempty⟩
    simp only [orderly, Bool.and_eq_true, Bool.or_eq_true, bne_iff_ne] at ho
    have hhidden := ho.1.2.resolve_left fun hne => hne hname
    rw [emptyUnder_of_decode hs hhidden h] at hempty
    cases hempty
  | _ => trivial

end Schema

end LspWire
