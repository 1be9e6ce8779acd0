import LspWire.Proofs.BaseReading
import LspWire.Proofs.PartsInOrder
import LspWire.Proofs.ReadingRun

/-! What a decoder refuses with.
An error is said of the very place where a decoder reads, or comes from a part of the value. So a
property of errors that holds of what is said of a place, and of a place if it holds further inside,
holds of every error. An ambiguity is what only a union says: of each union that may say so the
property has to be shown. -/

namespace LspWire

def DecodeError.isAmbiguity : DecodeError → Bool
  | .unionAmbiguous .. => true
  | _ => false

/-- Holds of what is said of a place itself, ambiguities apart, and of all that is said inside a
place once it is known there. -/
structure DecodeError.Inward (P : Context → DecodeError → Prop) : Prop where
  own : ∀ {cx e}, e.path? = some cx.path → e.isAmbiguity = false → P cx e
  of_step : ∀ {cx s e}, P (cx.step s) e → P cx e

structure Decoder.Refuses {α : Type} (P : Context → DecodeError → Prop) (d : Decoder α) :
    Prop where
  decode : ∀ {value cx e}, d.decode value cx = .error e → P cx e
  absent : ∀ {name cx e}, d.absent name cx = .error e → P cx e

def FieldReader.Refuses {α : Type} (P : Context → DecodeError → Prop) (read : FieldReader α) :
    Prop :=
  ∀ {held cx e}, read held cx = .error e → P cx e

section

variable {P : Context → DecodeError → Prop} (hP : DecodeError.Inward P)

include hP

namespace Decoder

variable {α : Type}

theorem refuses_present {decode : Json → Context → Except DecodeError α}
    (h : ∀ {value cx e}, decode value cx = .error e → P cx e) : (present decode).Refuses P :=
  ⟨h, fun hmissing => by cases hmissing; exact hP.own rfl rfl⟩

theorem refuses_boolean : boolean.Refuses P := refuses_present hP fun {value} _ _ h => by
  cases value <;> cases h <;> exact hP.own rfl rfl

theorem refuses_string : string.Refuses P := refuses_present hP fun {value} _ _ h => by
  cases value <;> cases h <;> exact hP.own rfl rfl

theorem refuses_null : null.Refuses P := refuses_present hP fun {value} _ _ h => by
  cases value <;> cases h <;> exact hP.own rfl rfl

theorem refuses_object : object.Refuses P := refuses_present hP fun {value} _ _ h => by
  cases value <;> cases h <;> exact hP.own rfl rfl

theorem refuses_any : any.Refuses P := refuses_present hP fun h => by cases h

theorem refuses_noParams : noParams.Refuses P := ⟨(refuses_null hP).decode, fun h => by cases h⟩

theorem refusal_of_range {range : IntegerRange} {value : Json} {cx : Context} {e : DecodeError}
    (h : range.decode value cx = .error e) : P cx e := by
  unfold IntegerRange.decode at h
  split at h
  · split at h
    · split at h <;> cases h
      exact hP.own rfl rfl
    · split at h
      · split at h <;> cases h <;> exact hP.own rfl rfl
      · cases h; exact hP.own rfl rfl
  · cases h; exact hP.own rfl rfl

theorem refuses_integer : integer.Refuses P :=
  refuses_present hP fun h => refusal_of_range hP (map_eq_error_iff.mp h)

theorem refuses_uinteger : uinteger.Refuses P :=
  refuses_present hP fun h => refusal_of_range hP (map_eq_error_iff.mp h)

theorem refuses_decimal : decimal.Refuses P := refuses_present hP fun {value cx e} h => by
  cases value with
  | number n =>
    cases n with
    | float x => cases h
    | integer i =>
      dsimp only at h
      split at h <;> cases h
      exact hP.own rfl rfl
  | _ => cases h; exact hP.own rfl rfl

theorem refuses_numberOrString : numberOrString.Refuses P :=
  refuses_present hP fun {value} _ _ h => by
    cases value with
    | number n => exact (refuses_integer hP).decode (map_eq_error_iff.mp h)
    | string s => cases h
    | _ => cases h; exact hP.own rfl rfl

theorem refuses_literal (word : String) : (literal word).Refuses P :=
  refuses_present hP fun {value} _ _ h => by
    cases value with
    | string found =>
      dsimp only at h
      split at h <;> cases h
      exact hP.own rfl rfl
    | _ => cases h; exact hP.own rfl rfl

theorem refuses_integerEnum (e : IntegerEnum) : (integerEnum e).Refuses P :=
  refuses_present hP fun h => by
    rcases bind_eq_error_iff.mp h with h | ⟨n, -, h⟩
    · exact (refuses_uinteger hP).decode h
    · split at h <;> cases h
      exact hP.own rfl rfl

theorem refuses_wordEnum (e : WordEnum) : (wordEnum e).Refuses P := refuses_present hP fun h => by
  rcases bind_eq_error_iff.mp h with h | ⟨word, -, h⟩
  · exact (refuses_string hP).decode h
  · split at h <;> cases h
    exact hP.own rfl rfl

theorem refuses_openEnum (e : WordEnum) : (openEnum e).Refuses P := refuses_present hP fun h => by
  rcases bind_eq_error_iff.mp h with h | ⟨word, -, h⟩
  · exact (refuses_string hP).decode h
  · cases h

theorem Refuses.list {d : Decoder α} (hd : d.Refuses P) : d.list.Refuses P :=
  refuses_present hP fun {value} _ _ h => by
    cases value with
    | array items =>
      obtain ⟨_, _, -, hfails, -⟩ := decodeItems_eq_error_iff.mp h
      exact hP.of_step (hd.decode hfails)
    | _ => cases h; exact hP.own rfl rfl

theorem Refuses.map {d : Decoder α} (hd : d.Refuses P) : d.map.Refuses P :=
  refuses_present hP fun {value} _ _ h => by
    cases value with
    | object members =>
      obtain ⟨_, _, _, -, hfails, -⟩ := decodeEntries_eq_error_iff.mp h
      exact hP.of_step (hd.decode hfails)
    | _ => cases h; exact hP.own rfl rfl

theorem Refuses.nullable {d : Decoder α} (hd : d.Refuses P) : d.nullable.Refuses P :=
  refuses_present hP fun {value} _ _ h => by
    cases value with
    | null => cases h
    | _ => exact hd.decode (map_eq_error_iff.mp h)

theorem refuses_marked {name key : String}
    {select : Option String → Option (Json → Context → Except DecodeError α)}
    (hselect : ∀ {word decode}, select word = some decode →
      ∀ {value cx e}, decode value cx = .error e → P cx e) :
    (marked name key select).Refuses P :=
  refuses_present hP fun {value cx e} h => by
    change (marked name key select).decode value cx = .error e at h
    rw [marked_decode_eq] at h
    split at h
    · next decode hdecode =>
      obtain ⟨word, -, hword⟩ := Option.bind_eq_some_iff.mp hdecode
      exact hselect hword h
    · cases h; exact hP.own rfl rfl

end Decoder

namespace FieldReader

variable {α : Type} {d : Decoder α}

theorem refuses_required (hd : d.Refuses P) (name : String) :
    FieldReader.Refuses P (required d name) := fun {held} _ _ h => by
  cases held with
  | none => exact hd.absent h
  | some value => exact hP.of_step (hd.decode h)

theorem refuses_optional (hd : d.Refuses P) (name : String) :
    FieldReader.Refuses P (optional d name) := fun {held} _ _ h => by
  cases held with
  | none => cases h
  | some value => exact hP.of_step (hd.decode (map_eq_error_iff.mp h))

theorem refuses_nullable (hd : d.Refuses P) (name : String) :
    FieldReader.Refuses P (nullable d name) := fun {held} _ _ h => by
  unfold nullable at h
  split at h
  · cases h
  · exact hP.of_step (hd.decode (map_eq_error_iff.mp h))
  · cases h; exact hP.own rfl rfl

theorem refuses_optionalNullable (hd : d.Refuses P) (name : String) :
    FieldReader.Refuses P (optionalNullable d name) := fun {held} _ _ h => by
  unfold optionalNullable at h
  split at h
  · cases h
  · exact hP.of_step (hd.decode (map_eq_error_iff.mp h))
  · cases h

theorem refuses_reader (hd : d.Refuses P) (key : String) (mode : FieldMode) :
    FieldReader.Refuses P (mode.reader d key) := by
  cases mode with
  | required => exact refuses_required hP hd key
  | optional => exact refuses_optional hP hd key
  | nullable => exact refuses_nullable hP hd key
  | optionalNullable => exact refuses_optionalNullable hP hd key

end FieldReader

theorem Reading.Gives.refusal_of_decode {α : Type} {reading : Reading α} {names : List String}
    {result : Members → Context → Except DecodeError α} (h : Gives reading names result)
    (hresult : ∀ {members cx e}, result members cx = .error e → P cx e) {value : Json}
    {cx : Context} {e : DecodeError} (he : reading.decode value cx = .error e) : P cx e := by
  cases value with
  | object members =>
    rcases h.decode_eq_error_iff.mp he with he | ⟨-, he⟩
    · exact hresult he
    · obtain ⟨name, -, -, rfl⟩ := closing_eq_error he
      exact hP.own rfl rfl
  | _ => cases he; exact hP.own rfl rfl

end

mutual

/-- The unions whose refusals are those of the type: what the alternatives of a union refuse is not
passed on. -/
def Schema.unions : Schema → List (String × Variants)
  | .list item | .map item | .nullable item => item.unions
  | .record _ fields => fields.unions
  | .union name variants => [(name, variants)]
  | .marked _ _ variants => variants.unions
  | _ => []

def Fields.unions : Fields → List (String × Variants)
  | .nil => []
  | .cons _ type rest => type.unions ++ rest.unions

def Variants.unions : Variants → List (String × Variants)
  | .nil => []
  | .cons _ _ _ type rest => type.unions ++ rest.unions

end

section

variable {P : Context → DecodeError → Prop}

mutual

theorem Schema.refuses (hP : DecodeError.Inward P) : ∀ s : Schema,
    (∀ u ∈ s.unions, (Schema.union u.1 u.2).decoder.Refuses P) → s.decoder.Refuses P
  | .boolean, _ => Decoder.refuses_boolean hP
  | .string, _ => Decoder.refuses_string hP
  | .integer, _ => Decoder.refuses_integer hP
  | .uinteger, _ => Decoder.refuses_uinteger hP
  | .decimal, _ => Decoder.refuses_decimal hP
  | .any, _ => Decoder.refuses_any hP
  | .object, _ => Decoder.refuses_object hP
  | .null, _ => Decoder.refuses_null hP
  | .noParams, _ => Decoder.refuses_noParams hP
  | .numberOrString, _ => Decoder.refuses_numberOrString hP
  | .literal _ word, _ => Decoder.refuses_literal hP word
  | .integerEnum e, _ => Decoder.refuses_integerEnum hP e
  | .wordEnum e, _ => Decoder.refuses_wordEnum hP e
  | .openEnum e, _ => Decoder.refuses_openEnum hP e
  | .list item, h => (Schema.refuses hP item h).list hP
  | .map item, h => (Schema.refuses hP item h).map hP
  | .nullable item, h => (Schema.refuses hP item h).nullable hP
  | .record _ fields, h => Decoder.refuses_present hP fun he =>
    fields.gives_read.refusal_of_decode hP (fun he => Fields.refusal_of_collect hP fields h he) he
  | .union name variants, h => h (name, variants) (List.mem_singleton_self _)
  | .marked _ _ variants, h => Decoder.refuses_marked hP fun hselect =>
    Variants.refusal_of_select hP variants h hselect

theorem Fields.refusal_of_collect (hP : DecodeError.Inward P) : ∀ fields : Fields,
    (∀ u ∈ fields.unions, (Schema.union u.1 u.2).decoder.Refuses P) → ∀ {members : Members}
      {cx : Context} {e : DecodeError}, fields.collect members cx = .error e → P cx e
  | .nil, _, _, _, _, h => by cases h
  | .cons form type rest, hunions, members, cx, e, h => by
    rw [Fields.unions, List.forall_mem_append] at hunions
    rcases bind_eq_error_iff.mp h with h | ⟨_, -, h⟩
    · exact FieldReader.refuses_reader hP (Schema.refuses hP type hunions.1) form.key form.mode h
    · rcases bind_eq_error_iff.mp h with h | ⟨_, -, h⟩
      · exact Fields.refusal_of_collect hP rest hunions.2 h
      · cases h

theorem Variants.refusal_of_select (hP : DecodeError.Inward P) : ∀ variants : Variants,
    (∀ u ∈ variants.unions, (Schema.union u.1 u.2).decoder.Refuses P) → ∀ {word : Option String}
      {decode : Json → Context → Except DecodeError variants.Val},
        variants.select word = some decode → ∀ {value : Json} {cx : Context} {e : DecodeError},
          decode value cx = .error e → P cx e
  | .nil, _, _, _, hselect, _, _, _, _ => by cases hselect
  | .cons _ _ mark type rest, hunions, word, decode, hselect, value, cx, e, h => by
    rw [Variants.unions, List.forall_mem_append] at hunions
    rw [Variants.select] at hselect
    split at hselect
    · cases hselect
      exact (Schema.refuses hP type hunions.1).decode (map_eq_error_iff.mp h)
    · obtain ⟨inner, hinner, rfl⟩ := Option.map_eq_some_iff.mp hselect
      exact Variants.refusal_of_select hP rest hunions.2 hinner (map_eq_error_iff.mp h)

end

end

end LspWire
