import LspWire.Decoder.Elementary
import LspWire.Proofs.ExceptStep

/-! What each way to read a field accepts. -/

namespace LspWire.FieldReader

theorem literal_eq_ok_iff (name expected : String) (value : Option Json)
    (cx : Context) :
    literal name expected value cx = .ok () ↔ value = some (.string expected) := by
  unfold literal
  split
  · split
    · next h => simp [h]
    · next h => simp [h]
  · next other hne => simpa using fun h => hne expected h
  · simp

theorem required_eq_ok_of_present {α : Type}
    {read : Json → Context → Except DecodeError α} {name : String} {value : Option Json}
    {cx : Context} {a : α} :
    required (.present read) name value cx = .ok a ↔
      ∃ held, value = some held ∧ read held (cx.field name) = .ok a := by
  cases value with
  | none => exact ⟨fun h => (by cases h), fun ⟨_, h, _⟩ => (by cases h)⟩
  | some held => exact ⟨fun h => ⟨held, rfl, h⟩, fun ⟨_, h, hread⟩ => (by cases h; exact hread)⟩

theorem nullable_eq_ok_iff {α : Type} {d : Decoder α} {name : String}
    {value : Option Json} {cx : Context} {x : Nullable α} :
    FieldReader.nullable d name value cx = .ok x ↔
      value = some .null ∧ x = .null ∨
        ∃ held a, value = some held ∧ held ≠ .null ∧ d.decode held (cx.field name) = .ok a ∧
          x = .value a := by
  unfold nullable
  split
  · simp [eq_comm]
  · next held hne =>
    rw [map_eq_ok_iff]
    constructor
    · rintro ⟨a, ha, rfl⟩
      exact .inr ⟨held, a, rfl, fun h => hne (by rw [h]), ha, rfl⟩
    · rintro (⟨h, -⟩ | ⟨_, a, h, -, ha, rfl⟩)
      · exact absurd (Option.some.inj h) hne
      · cases h
        exact ⟨a, ha, rfl⟩
  · exact ⟨fun h => (by cases h), fun h => (by simp at h)⟩

theorem optionalNullable_eq_ok_iff {α : Type} {d : Decoder α} {name : String}
    {value : Option Json} {cx : Context} {x : Presence α} :
    optionalNullable d name value cx = .ok x ↔
      value = none ∧ x = .absent ∨ value = some .null ∧ x = .null ∨
        ∃ held a, value = some held ∧ held ≠ .null ∧ d.decode held (cx.field name) = .ok a ∧
          x = .value a := by
  unfold optionalNullable
  split
  · simp [eq_comm]
  · next held hne =>
    rw [map_eq_ok_iff]
    constructor
    · rintro ⟨a, ha, rfl⟩
      exact .inr (.inr ⟨held, a, rfl, fun h => hne (by rw [h]), ha, rfl⟩)
    · rintro (⟨h, -⟩ | ⟨h, -⟩ | ⟨_, a, h, -, ha, rfl⟩)
      · cases h
      · exact absurd (Option.some.inj h) hne
      · cases h
        exact ⟨a, ha, rfl⟩
  · simp [eq_comm]

theorem optional_any (name : String) (value : Option Json) (cx : Context) :
    optional Decoder.any name value cx = .ok value := by
  cases value <;> rfl

theorem required_string_eq_ok_iff {name : String} {value : Option Json} {cx : Context}
    {s : String} :
    required Decoder.string name value cx = .ok s ↔ value = some (.string s) := by
  refine required_eq_ok_of_present.trans ⟨?_, ?_⟩
  · rintro ⟨held, rfl, h⟩
    cases held with
    | string found => cases h; rfl
    | _ => cases h
  · rintro rfl
    exact ⟨_, rfl, rfl⟩

end LspWire.FieldReader
