import LspWire.Proofs.BaseReading
import LspWire.Proofs.ReadingRun
import LspWire.Proofs.UnionChoice

/-! The kinds of document that a type admits.
What a type reads, on whatever terms, is of one of its kinds, and so is what its values are written
as. -/

namespace LspWire

theorem Json.kind_sorted (value : Json) : value.sorted.kind = value.kind := by
  cases value <;> rfl

mutual

def Schema.kinds : Schema → List String
  | .boolean => ["boolean"]
  | .string | .literal _ _ | .wordEnum _ | .openEnum _ => ["string"]
  | .integer | .uinteger | .decimal | .integerEnum _ => ["number"]
  | .any => ["null", "boolean", "number", "string", "array", "object"]
  | .null | .noParams => ["null"]
  | .numberOrString => ["number", "string"]
  | .list _ => ["array"]
  | .object | .map _ | .record _ _ => ["object"]
  | .nullable item => "null" :: item.kinds
  | .union _ variants | .marked _ _ variants => variants.kinds

def Variants.kinds : Variants → List String
  | .nil => []
  | .cons _ _ _ type rest => type.kinds ++ rest.kinds

end

theorem Json.kind_mem_any (value : Json) : value.kind ∈ Schema.any.kinds := by
  cases value <;> simp [kind, Schema.kinds]

mutual

theorem Schema.kind_mem_of_decode : ∀ (s : Schema) {value : Json} {cx : Context} {x : s.Val},
    s.decoder.decode value cx = .ok x → value.kind ∈ s.kinds
  | .boolean, value, _, _, h => by
    cases value with
    | bool b => exact List.mem_singleton_self _
    | _ => cases h
  | .string, value, cx, x, h => by
    rw [(Decoder.string_decode_eq_ok_iff value cx x).mp h]
    exact List.mem_singleton_self _
  | .integer, value, cx, x, h => by
    rw [(Decoder.integer_decode_eq_ok_iff value cx x).mp h]
    exact List.mem_singleton_self _
  | .uinteger, value, cx, x, h => by
    rw [((Decoder.uinteger_decode_eq_ok_iff value cx x).mp h).1]
    exact List.mem_singleton_self _
  | .decimal, value, _, _, h => by
    cases value with
    | number n => exact List.mem_singleton_self _
    | _ => cases h
  | .any, value, _, _, _ => value.kind_mem_any
  | .object, value, _, _, h => by
    cases value with
    | object members => exact List.mem_singleton_self _
    | _ => cases h
  | .null, value, cx, _, h => by
    rw [(Decoder.null_decode_eq_ok_iff value cx).mp h]
    exact List.mem_singleton_self _
  | .noParams, value, cx, _, h => by
    rw [(Decoder.null_decode_eq_ok_iff value cx).mp h]
    exact List.mem_singleton_self _
  | .numberOrString, value, cx, x, h => by
    rw [(Decoder.numberOrString_decode_eq_ok_iff value cx x).mp h]
    cases x with
    | number n => exact List.mem_cons_self
    | string s => exact List.mem_cons_of_mem _ List.mem_cons_self
  | .literal _ word, value, cx, _, h => by
    rw [(Decoder.literal_decode_eq_ok_iff word value cx).mp h]
    exact List.mem_singleton_self _
  | .integerEnum e, value, cx, i, h => by
    obtain ⟨n, hn, -⟩ := (Decoder.integerEnum_decode_eq_ok_iff e value cx i).mp h
    rw [((Decoder.uinteger_decode_eq_ok_iff value cx n).mp hn).1]
    exact List.mem_singleton_self _
  | .wordEnum e, value, cx, i, h => by
    obtain ⟨word, rfl, -⟩ := (Decoder.wordEnum_decode_eq_ok_iff e value cx i).mp h
    exact List.mem_singleton_self _
  | .openEnum e, value, cx, w, h => by
    obtain ⟨word, rfl, -⟩ := (Decoder.openEnum_decode_eq_ok_iff e value cx w).mp h
    exact List.mem_singleton_self _
  | .list _, value, _, _, h => by
    cases value with
    | array items => exact List.mem_singleton_self _
    | _ => cases h
  | .map _, value, _, _, h => by
    cases value with
    | object members => exact List.mem_singleton_self _
    | _ => cases h
  | .nullable item, value, cx, x, h => by
    cases value with
    | null => exact List.mem_cons_self
    | _ =>
      obtain ⟨y, hy, -⟩ := map_eq_ok_iff.mp h
      exact List.mem_cons_of_mem _ (Schema.kind_mem_of_decode item hy)
  | .record _ fields, value, cx, x, h => by
    obtain ⟨members, rfl, -⟩ := fields.gives_read.decode_eq_ok_iff.mp h
    exact List.mem_singleton_self _
  | .union _ variants, value, cx, x, h => by
    obtain ⟨a, ha, hx | hx⟩ := Schema.exists_alternative_of_decode h
    · exact Variants.kind_mem_of_alternative variants a ha hx
    · exact Variants.kind_mem_of_alternative variants a ha hx
  | .marked _ _ variants, value, cx, x, h => by
    obtain ⟨word, decode, -, hselect, hx⟩ := Decoder.exists_select_of_marked h
    exact Variants.kind_mem_of_select variants word hselect hx

theorem Variants.kind_mem_of_alternative : ∀ (variants : Variants),
    ∀ a ∈ variants.alternatives, ∀ {value : Json} {cx : Context} {x : variants.Val},
      a.decode value cx = .ok x → value.kind ∈ variants.kinds
  | .nil, _, ha, _, _, _, _ => by cases ha
  | .cons _ _ _ type rest, a, ha, value, cx, x, h => by
    rw [Variants.kinds, List.mem_append]
    rcases List.mem_cons.mp ha with rfl | ha
    · obtain ⟨y, hy, -⟩ := map_eq_ok_iff.mp h
      exact .inl (Schema.kind_mem_of_decode type hy)
    · obtain ⟨b, hb, rfl⟩ := List.mem_map.mp ha
      obtain ⟨y, hy, -⟩ := map_eq_ok_iff.mp h
      exact .inr (Variants.kind_mem_of_alternative rest b hb hy)

theorem Variants.kind_mem_of_select : ∀ (variants : Variants) (word : Option String)
    {decode : Json → Context → Except DecodeError variants.Val},
      variants.select word = some decode →
        ∀ {value : Json} {cx : Context} {x : variants.Val}, decode value cx = .ok x →
          value.kind ∈ variants.kinds
  | .nil, _, _, hselect, _, _, _, _ => by cases hselect
  | .cons _ _ mark type rest, word, decode, hselect, value, cx, x, h => by
    rw [Variants.kinds, List.mem_append]
    rw [Variants.select] at hselect
    split at hselect
    · cases hselect
      obtain ⟨y, hy, -⟩ := map_eq_ok_iff.mp h
      exact .inl (Schema.kind_mem_of_decode type hy)
    · obtain ⟨inner, hinner, rfl⟩ := Option.map_eq_some_iff.mp hselect
      obtain ⟨y, hy, -⟩ := map_eq_ok_iff.mp h
      exact .inr (Variants.kind_mem_of_select rest word hinner hy)

end

mutual

theorem Schema.kind_write_mem : ∀ (s : Schema) (x : s.Val), (s.write x).kind ∈ s.kinds
  | .boolean, _ | .string, _ | .integer, _ | .uinteger, _ | .decimal, _ | .object, _ | .null, _
  | .noParams, _ | .literal _ _, _ | .integerEnum _, _ | .wordEnum _, _ | .openEnum _, _
  | .list _, _ | .map _, _ | .record _ _, _ => List.mem_singleton_self _
  | .any, value => Json.kind_mem_any value
  | .numberOrString, x => by
    cases x with
    | number n => exact List.mem_cons_self
    | string s => exact List.mem_cons_of_mem _ List.mem_cons_self
  | .nullable item, x => by
    cases x with
    | null => exact List.mem_cons_self
    | value a => exact List.mem_cons_of_mem _ (Schema.kind_write_mem item a)
  | .union _ variants, x => Variants.kind_write_mem variants x
  | .marked _ _ variants, x => Variants.kind_write_mem variants x

theorem Variants.kind_write_mem :
    ∀ (variants : Variants) (x : variants.Val), (variants.write x).kind ∈ variants.kinds
  | .nil, x => x.elim
  | .cons _ _ _ type rest, x => by
    rw [Variants.kinds, List.mem_append]
    cases x with
    | inl y => exact .inl (Schema.kind_write_mem type y)
    | inr y => exact .inr (Variants.kind_write_mem rest y)

end

theorem Schema.encode_ne_null {s : Schema} (h : "null" ∉ s.kinds) (x : s.Val) :
    s.encode x ≠ .null := by
  intro heq
  have hkind := s.kind_write_mem x
  rw [← Json.kind_sorted] at hkind
  change (s.encode x).kind ∈ s.kinds at hkind
  rw [heq] at hkind
  exact h hkind

end LspWire
