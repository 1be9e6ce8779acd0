import LspWire.Proofs.ErrorPlace
import LspWire.Proofs.PartsInOrder
import LspWire.Proofs.TypeKind
import LspWire.Proofs.TypePart
import Mathlib.Data.Rat.Defs

/-! What errors say is true.
The path of an error leads from the place of reading through declared fields, list positions and
map keys to a part of the document, and there what the error says holds of that part and of the type
that reads it. A union is a part but none of its variants is: what they refuse is not passed on. -/

namespace LspWire

def Json.step? (s : PathStep) (value : Json) : Option Json :=
  match s, value with
  | .field key, .object members => Members.get? members key
  | .index position, .array items => items[position]?
  | .entry key, .object members => Members.get? members key
  | _, _ => none

def Json.at? : List PathStep → Json → Option Json
  | [], value => some value
  | s :: steps, value => (value.step? s).bind (Json.at? steps)

def Context.within (cx : Context) (steps : List PathStep) : Context :=
  { cx with path := { cx.path with steps := cx.path.steps ++ steps } }

namespace Context

@[simp] theorem within_nil (cx : Context) : cx.within [] = cx := by simp [within]

@[simp] theorem within_cons (cx : Context) (s : PathStep) (steps : List PathStep) :
    cx.within (s :: steps) = (cx.step s).within steps := by
  simp [within, step, Path.step]

theorem text_within (cx : Context) (steps : List PathStep) :
    (cx.within steps).path.text = cx.path.text ++ String.join (steps.map PathStep.text) := by
  simp [within, Path.text, String.append_assoc]

end Context

/-- The steps lead from a document of a type to a part of it, which is read as a type of its own.
Fields are declared ones. -/
inductive Schema.Reaches : Schema → Json → List PathStep → Schema → Json → Prop where
  | here (s : Schema) (value : Json) : s.Reaches value [] s value
  | item {item part : Schema} {items : List Json} {position : Nat} {value held : Json}
      {steps : List PathStep} (hvalue : items[position]? = some value)
      (h : item.Reaches value steps part held) :
      (Schema.list item).Reaches (.array items) (.index position :: steps) part held
  | entry {item part : Schema} {members : Members} {key : String} {value held : Json}
      {steps : List PathStep} (hvalue : members.get? key = some value)
      (h : item.Reaches value steps part held) :
      (Schema.map item).Reaches (.object members) (.entry key :: steps) part held
  | field {name key : String} {fields : Fields} {mode : FieldMode} {type part : Schema}
      {members : Members} {value held : Json} {steps : List PathStep}
      (hfield : (key, mode, type) ∈ fields.readings) (hvalue : members.get? key = some value)
      (h : type.Reaches value steps part held) :
      (Schema.record name fields).Reaches (.object members) (.field key :: steps) part held
  | nullable {item part : Schema} {value held : Json} {steps : List PathStep}
      (h : item.Reaches value steps part held) :
      (Schema.nullable item).Reaches value steps part held
  | marked {name key : String} {variants : Variants} {word : Option String} {type part : Schema}
      {value held : Json} {steps : List PathStep}
      (hword : Decoder.markUnder key value = some word) (htype : variants.typeOf? word = some type)
      (h : type.Reaches value steps part held) :
      (Schema.marked name key variants).Reaches value steps part held

theorem Schema.Reaches.at?_eq {s part : Schema} {value held : Json} {steps : List PathStep}
    (h : s.Reaches value steps part held) : value.at? steps = some held := by
  induction h with
  | here => rfl
  | item hvalue _ ih => simpa [Json.at?, Json.step?, hvalue] using ih
  | entry hvalue _ ih => simpa [Json.at?, Json.step?, hvalue] using ih
  | field _ hvalue _ ih => simpa [Json.at?, Json.step?, hvalue] using ih
  | nullable _ ih => exact ih
  | marked _ _ _ ih => exact ih

def Number.toRat : Number → Rat
  | .integer i => i
  | .float x => x.toRat

theorem Binary64.toRat_of_toInt? {x : Binary64} {i : Int} (h : x.toInt? = some i) :
    x.toRat = i := by
  unfold toInt? at h
  split at h
  · next hmod =>
    have hnum : x.numerator = x.denominator * (x.numerator / x.denominator) :=
      (Nat.mul_div_cancel' (Nat.dvd_of_mod_eq_zero hmod)).symm
    have hquotient (q : Int) : mkRat (x.denominator * q) x.denominator = q := by
      have hscale := Rat.mkRat_mul_left (Nat.ne_of_gt x.denominator_pos) (n := q) (d := 1)
      rw [Nat.mul_one] at hscale
      rw [hscale, Rat.mkRat_one]
    cases h
    rw [toRat, hnum, Nat.mul_div_cancel_left _ x.denominator_pos]
    split
    · rw [Int.natCast_mul, ← Int.mul_neg, hquotient]
    · rw [Int.natCast_mul, hquotient]
  · cases h

def Schema.range? : Schema → Option (String × (Int → Bool))
  | .integer | .numberOrString => some ("integer", IntegerRange.integer.contains)
  | .uinteger | .integerEnum _ => some ("uinteger", IntegerRange.uinteger.contains)
  | .decimal => some ("decimal", fun i => (Binary64.nearest (i < 0) i.natAbs 1).isSome)
  | _ => none

/-- What an error says of the value at its place, and of the type that reads this value there. -/
def DecodeError.TrueOf (part : Schema) (held : Json) (cx : Context) : DecodeError → Prop
  | .typeMismatch _ _ found =>
    found = held.kind ∧ held.kind ∉ part.kinds ∨
      found = "non-integral number" ∧ ∃ x, held = .number (.float x)
  | .missingRequiredField _ key => ∃ name fields, ∃ members : Members,
      part = .record name fields ∧ held = .object members ∧ key ∈ fields.keys ∧
        members.get? key = none
  | .unknownField _ key => cx.options.rejectUnknownFields = true ∧
      ∃ name fields, ∃ members : Members, part = .record name fields ∧ held = .object members ∧
        key ∈ members.names ∧ key ∉ fields.keys ∧
          ∀ other ∈ members.names, other ∉ fields.keys → key ≤ other
  | .fieldOutOfRange _ range text => ∃ n i contains, held = .number n ∧ n.toRat = (i : Int) ∧
      part.range? = some (range, contains) ∧ contains i = false ∧ text = n.text
  | .literalMismatch _ expected found =>
    (∃ name, part = .literal name expected) ∧ held = .string found ∧ found ≠ expected
  | .invalidEnumValue _ enumeration text =>
    (∃ e : WordEnum, part = .wordEnum e ∧ enumeration = e.name ∧ held = .string text ∧
        text ∉ e.members.map (·.2)) ∨
      ∃ (e : IntegerEnum) (n : Nat), part = .integerEnum e ∧ enumeration = e.name ∧
        held = .number (.integer n) ∧ text = toString n ∧
          IntegerRange.uinteger.contains n = true ∧ n ∉ e.members.map (·.2)
  | .unionNoMatch _ union =>
    (∃ variants, part = .union union variants ∧
        ∀ a ∈ variants.alternatives, ∀ u, a.decode held cx ≠ .ok u) ∨
      ∃ key variants, part = .marked union key variants ∧
        (Decoder.markUnder key held).bind variants.select = none
  | .unionAmbiguous _ union labels => ∃ variants, part = .union union variants ∧
      labels = (Union.candidates variants.alternatives held cx).map (·.1) ∧
        2 ≤ labels.length ∧ Union.agree ((Union.candidates variants.alternatives held cx).map
          fun found => some (variants.encode found.2)) = false
  | _ => False

/-- What the error says is true of a part of the document, and its path leads to that part. -/
def DecodeError.TrueInside (s : Schema) (value : Json) (cx : Context) (e : DecodeError) : Prop :=
  ∃ steps part held, s.Reaches value steps part held ∧ e.path? = some (cx.within steps).path ∧
    e.TrueOf part held (cx.within steps)

namespace DecodeError.TrueInside

variable {s : Schema} {value : Json} {cx : Context} {e : DecodeError}

theorem here (hpath : e.path? = some cx.path) (h : e.TrueOf s value cx) :
    e.TrueInside s value cx :=
  ⟨[], s, value, .here s value, by rwa [Context.within_nil], by rwa [Context.within_nil]⟩

theorem mismatch (expected : String) (h : value.kind ∉ s.kinds) :
    (cx.mismatch expected value).TrueInside s value cx :=
  here rfl (Or.inl ⟨rfl, h⟩)

theorem of_range {range : IntegerRange} (hs : s.range? = some (range.name, range.contains))
    {n : Number} (h : range.decode (.number n) cx = .error e) :
    e.TrueInside s (.number n) cx := by
  have houtside : ∀ {i : Int}, n.toRat = i → ¬range.contains i = true →
      (DecodeError.fieldOutOfRange cx.path range.name n.text).TrueInside s (.number n) cx :=
    fun hvalue hcontains =>
      here rfl ⟨n, _, range.contains, rfl, hvalue, hs, Bool.eq_false_of_not_eq_true hcontains, rfl⟩
  cases n with
  | integer i =>
    dsimp only [IntegerRange.decode] at h
    split at h
    · cases h
    · next hcontains => cases h; exact houtside rfl hcontains
  | float x =>
    dsimp only [IntegerRange.decode] at h
    split at h
    · next i hi =>
      split at h
      · cases h; exact here rfl (Or.inr ⟨rfl, x, rfl⟩)
      · next hcontains => cases h; exact houtside (Binary64.toRat_of_toInt? hi) hcontains
    · cases h; exact here rfl (Or.inr ⟨rfl, x, rfl⟩)

theorem of_item {items : List Json} {position : Nat} {item : Json}
    (hitem : items[position]? = some item) (h : e.TrueInside s item (cx.index position)) :
    e.TrueInside (.list s) (.array items) cx := by
  obtain ⟨steps, part, held, hreaches, htrue⟩ := h
  exact ⟨_, part, held, .item hitem hreaches, by rwa [Context.within_cons]⟩

theorem of_entry {members : Members} {key : String} {held : Json}
    (hheld : members.get? key = some held) (h : e.TrueInside s held (cx.entry key)) :
    e.TrueInside (.map s) (.object members) cx := by
  obtain ⟨steps, part, held, hreaches, htrue⟩ := h
  exact ⟨_, part, held, .entry hheld hreaches, by rwa [Context.within_cons]⟩

theorem of_field {name key : String} {fields : Fields} {mode : FieldMode} {members : Members}
    {held : Json} (hfield : (key, mode, s) ∈ fields.readings)
    (hheld : members.get? key = some held) (h : e.TrueInside s held (cx.field key)) :
    e.TrueInside (.record name fields) (.object members) cx := by
  obtain ⟨steps, part, held, hreaches, htrue⟩ := h
  exact ⟨_, part, held, .field hfield hheld hreaches, by rwa [Context.within_cons]⟩

theorem of_nullable (h : e.TrueInside s value cx) : e.TrueInside (.nullable s) value cx := by
  obtain ⟨steps, part, held, hreaches, htrue⟩ := h
  exact ⟨steps, part, held, .nullable hreaches, htrue⟩

theorem of_marked {name key : String} {variants : Variants} {word : Option String}
    (hword : Decoder.markUnder key value = some word) (hs : variants.typeOf? word = some s)
    (h : e.TrueInside s value cx) : e.TrueInside (.marked name key variants) value cx := by
  obtain ⟨steps, part, held, hreaches, htrue⟩ := h
  exact ⟨steps, part, held, .marked hword hs hreaches, htrue⟩

theorem of_closing {name : String} {fields : Fields} {members : Members}
    (hmembers : Ascending members) (h : Reading.closing fields.keys members cx = .error e) :
    e.TrueInside (.record name fields) (.object members) cx := by
  obtain ⟨hreject, key, hkey, hunread, hleast, rfl⟩ :=
    (Reading.closing_eq_error_iff hmembers).mp h
  exact here rfl ⟨hreject, name, fields, members, rfl, rfl, hkey, hunread, hleast⟩

end DecodeError.TrueInside

theorem IntegerEnum.notMem_of_ofValue? {e : IntegerEnum} {n : Nat} (h : e.ofValue? n = none) :
    n ∉ e.members.map (·.2) := by
  rw [List.mem_map]
  rintro ⟨member, hmember, rfl⟩
  simpa using List.findFinIdx?_eq_none_iff.mp h member hmember

theorem WordEnum.notMem_of_ofWord? {e : WordEnum} {word : String} (h : e.ofWord? word = none) :
    word ∉ e.members.map (·.2) := by
  rw [List.mem_map]
  rintro ⟨member, hmember, rfl⟩
  simpa using List.findFinIdx?_eq_none_iff.mp h member hmember

theorem Union.of_choose_error {U : Type} {union : String} {encode : U → Option Json} {path : Path}
    {found : Matches U} {e : DecodeError} (h : choose union encode path found = .error e) :
    found = [] ∧ e = .unionNoMatch path union ∨
      2 ≤ found.length ∧ agree (found.map fun entry => encode entry.2) = false ∧
        e = .unionAmbiguous path union (found.map (·.1)) := by
  match found with
  | [] => cases h; exact .inl ⟨rfl, rfl⟩
  | [_] => cases h
  | first :: second :: rest =>
    rw [choose] at h
    · split at h
      · cases h
      · next hagree =>
        cases h
        exact .inr ⟨by simp, Bool.eq_false_of_not_eq_true hagree, rfl⟩
    · exact List.cons_ne_nil _ _

theorem Union.decode_ne_ok_of_candidates {U : Type} {alternatives : List (Alternative U)}
    {value : Json} {cx : Context} (h : candidates alternatives value cx = []) :
    ∀ a ∈ alternatives, ∀ u, a.decode value cx ≠ .ok u := by
  have hstrict : reads alternatives value cx.strict = [] := by
    by_contra hne
    rw [← filterMap_strictMatch?] at hne
    exact hne (candidates_of_strictMatch hne ▸ h)
  rw [candidates_of_no_strict_reads hstrict] at h
  intro a ha u hu
  have hmem : (a.name, u) ∈ reads alternatives value cx := mem_reads_iff.mpr ⟨a, ha, rfl, hu⟩
  rw [h] at hmem
  cases hmem

def Schema.RefusesTruly (s : Schema) : Prop :=
  ∀ value cx e, value.WellFormed → s.decoder.decode value cx = .error e → e.TrueInside s value cx

namespace Schema.RefusesTruly

variable {item : Schema} {name : String}

theorem decimal : Schema.decimal.RefusesTruly := by
  intro value cx e _ h
  cases value with
  | number n =>
    cases n with
    | float x => cases h
    | integer i =>
      dsimp only [decoder, Decoder.decimal, Decoder.present] at h
      split at h
      · cases h
      · next hnone =>
        cases h
        exact .here rfl ⟨.integer i, i, _, rfl, rfl, rfl, by rw [hnone]; rfl, rfl⟩
  | _ => cases h; exact .mismatch _ (by simp [Json.kind, kinds])

theorem literal (word : String) : (Schema.literal name word).RefusesTruly := by
  intro value cx e _ h
  cases value with
  | string found =>
    dsimp only [decoder, Decoder.literal, Decoder.present] at h
    split at h
    · cases h
    · next hne => cases h; exact .here rfl ⟨⟨name, rfl⟩, rfl, hne⟩
  | _ => cases h; exact .mismatch _ (by simp [Json.kind, kinds])

theorem integerEnum (enumeration : IntegerEnum) :
    (Schema.integerEnum enumeration).RefusesTruly := by
  intro value cx e _ h
  rcases bind_eq_error_iff.mp h with hread | ⟨n, hn, hread⟩
  · cases value with
    | number n => exact .of_range rfl (map_eq_error_iff.mp hread)
    | _ => cases hread; exact .mismatch _ (by simp [Json.kind, kinds])
  · obtain ⟨rfl, hgreatest⟩ := (Decoder.uinteger_decode_eq_ok_iff value cx n).mp hn
    split at hread
    · cases hread
    · next hnone =>
      cases hread
      have hcontains : IntegerRange.uinteger.contains n.toNat = true :=
        (IntegerRange.contains_iff _ _).mpr ⟨Int.natCast_nonneg _, hgreatest⟩
      exact .here rfl (Or.inr ⟨enumeration, n.toNat, rfl, rfl, rfl, rfl, hcontains,
        IntegerEnum.notMem_of_ofValue? hnone⟩)

theorem wordEnum (enumeration : WordEnum) : (Schema.wordEnum enumeration).RefusesTruly := by
  intro value cx e _ h
  rcases bind_eq_error_iff.mp h with hread | ⟨word, hword, hread⟩
  · cases value with
    | string s => cases hread
    | _ => cases hread; exact .mismatch _ (by simp [Json.kind, kinds])
  · rw [(Decoder.string_decode_eq_ok_iff value cx word).mp hword]
    split at hread
    · cases hread
    · next hnone =>
      cases hread
      exact .here rfl (Or.inl ⟨enumeration, rfl, rfl, rfl, WordEnum.notMem_of_ofWord? hnone⟩)

theorem list (hitem : item.RefusesTruly) : (Schema.list item).RefusesTruly := by
  intro value cx e hvalue h
  cases value with
  | array items =>
    obtain ⟨i, found, hfound, hread, -⟩ := Decoder.decodeItems_eq_error_iff.mp h
    rw [Nat.zero_add] at hread
    have hwf := (Json.wellFormed_array_iff items).mp hvalue _ (List.mem_of_getElem? hfound)
    exact .of_item hfound (hitem _ _ e hwf hread)
  | _ => cases h; exact .mismatch _ (by simp [Json.kind, kinds])

theorem map (hitem : item.RefusesTruly) : (Schema.map item).RefusesTruly := by
  intro value cx e hvalue h
  cases value with
  | object members =>
    obtain ⟨i, key, held, hheld, hread, -⟩ := Decoder.decodeEntries_eq_error_iff.mp h
    have hmember : (key, held) ∈ members := List.mem_of_getElem? hheld
    obtain ⟨hascending, hmembers⟩ := (Json.wellFormed_object_iff members).mp hvalue
    have hget := (Members.get?_eq_some_iff hascending).mpr hmember
    exact .of_entry hget (hitem _ _ e (hmembers _ hmember) hread)
  | _ => cases h; exact .mismatch _ (by simp [Json.kind, kinds])

theorem nullable (hitem : item.RefusesTruly) : (Schema.nullable item).RefusesTruly := by
  intro value cx e hvalue h
  cases value with
  | null => cases h
  | _ => exact .of_nullable (hitem _ cx e hvalue (map_eq_error_iff.mp h))

theorem record {fields : Fields} (hfields : ∀ entry ∈ fields.readings, entry.2.2.RefusesTruly) :
    (Schema.record name fields).RefusesTruly := by
  intro value cx e hvalue h
  cases value with
  | object members =>
    rcases fields.gives_read.decode_eq_error_iff.mp h with h | ⟨-, h⟩
    · obtain ⟨i, ⟨key, mode, type⟩, hentry, h, -⟩ := Fields.collect_eq_error_iff.mp h
      have hfield := List.mem_of_getElem? hentry
      rcases FieldMode.reader_eq_error h with ⟨hnone, rfl⟩ | ⟨held, hheld, h⟩
      · have hkey : key ∈ fields.keys := Fields.mem_keys_iff.mpr ⟨mode, type, hfield⟩
        exact .here rfl ⟨name, fields, members, rfl, rfl, hkey, hnone⟩
      · exact .of_field hfield hheld (hfields _ hfield held _ e (hvalue.of_get? hheld) h)
    · exact .of_closing ((Json.wellFormed_object_iff members).mp hvalue).1 h
  | _ => cases h; exact .mismatch _ (by simp [Json.kind, kinds])

theorem union (variants : Variants) : (Schema.union name variants).RefusesTruly := by
  intro value cx e _ h
  change Union.choose name (fun x => some (variants.encode x)) cx.path
    (Union.candidates variants.alternatives value cx) = .error e at h
  rcases Union.of_choose_error h with ⟨hnone, rfl⟩ | ⟨hseveral, hagree, rfl⟩
  · exact .here rfl (Or.inl ⟨variants, rfl, Union.decode_ne_ok_of_candidates hnone⟩)
  · exact .here rfl ⟨variants, rfl, rfl, by rwa [List.length_map], hagree⟩

theorem marked {key : String} {variants : Variants}
    (hvariants : ∀ type ∈ variants.types, type.RefusesTruly) :
    (Schema.marked name key variants).RefusesTruly := by
  intro value cx e hvalue h
  change (Decoder.marked name key variants.select).decode value cx = .error e at h
  rw [Decoder.marked_decode_eq] at h
  split at h
  · next decode hdecode =>
    obtain ⟨word, hword, hselect⟩ := Option.bind_eq_some_iff.mp hdecode
    obtain ⟨type, htype, hread⟩ := Variants.exists_type_of_error hselect h
    have htruly := hvariants type (Variants.mem_types_of_typeOf? htype)
    exact .of_marked hword htype (htruly value cx e hvalue hread)
  · next hnone => cases h; exact .here rfl (Or.inr ⟨key, variants, rfl, hnone⟩)

end Schema.RefusesTruly

theorem Schema.refusesTruly (s : Schema) : s.RefusesTruly := by
  induction s using Schema.parts_induction with
  | boolean =>
    intro value cx e _ h
    cases value with
    | bool b => cases h
    | _ => cases h; exact .mismatch _ (by simp [Json.kind, kinds])
  | string | openEnum _ =>
    intro value cx e _ h
    cases value with
    | string s => cases h
    | _ => cases h; exact .mismatch _ (by simp [Json.kind, kinds])
  | integer | uinteger =>
    intro value cx e _ h
    cases value with
    | number n => exact .of_range rfl (map_eq_error_iff.mp h)
    | _ => cases h; exact .mismatch _ (by simp [Json.kind, kinds])
  | decimal => exact .decimal
  | any => intro value cx e _ h; cases h
  | object =>
    intro value cx e _ h
    cases value with
    | object members => cases h
    | _ => cases h; exact .mismatch _ (by simp [Json.kind, kinds])
  | null | noParams =>
    intro value cx e _ h
    cases value with
    | null => cases h
    | _ => cases h; exact .mismatch _ (by simp [Json.kind, kinds])
  | numberOrString =>
    intro value cx e _ h
    cases value with
    | number n => exact .of_range rfl (map_eq_error_iff.mp (map_eq_error_iff.mp h))
    | string s => cases h
    | _ => cases h; exact .mismatch _ (by simp [Json.kind, kinds])
  | literal name word => exact .literal word
  | integerEnum enumeration => exact .integerEnum enumeration
  | wordEnum enumeration => exact .wordEnum enumeration
  | list item ih => exact ih.list
  | map item ih => exact ih.map
  | nullable item ih => exact ih.nullable
  | record name fields ih => exact .record ih
  | union name variants _ => exact .union variants
  | marked name key variants ih => exact .marked ih

end LspWire
