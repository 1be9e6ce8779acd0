import LspWire.Proofs.ApartTypes
import LspWire.Proofs.TrimmedType
import Mathlib.Data.List.Nodup

/-! Types whose values are recognised again.
In an orderly type the members of an enumeration differ, what may be null is never written as null
otherwise, the marks of a marked union differ and are written by its variants, and the variants of
a union known by shape are apart. The one document that two of these may share is the empty list;
the later of them must then be the links of a definition, whose empty list is hidden by the other
variant. -/

namespace LspWire

theorem findFinIdx?_get {α β : Type} [BEq β] [LawfulBEq β] (f : α → β) (members : List α)
    (hnodup : (members.map f).Nodup) (i : Fin members.length) :
    members.findFinIdx? (fun member => f member == f (members.get i)) = some i := by
  rw [List.findFinIdx?_eq_some_iff]
  rw [List.Nodup, List.pairwise_map, List.pairwise_iff_getElem] at hnodup
  exact ⟨beq_self_eq_true _, fun j hji heq =>
    hnodup j i j.isLt i.isLt hji (beq_iff_eq.mp heq)⟩

def IntegerEnum.orderly (e : IntegerEnum) : Bool :=
  decide (e.members.map (·.2)).Nodup &&
    e.members.all fun member => (member.2 : Int) ≤ IntegerRange.uinteger.greatest

def WordEnum.orderly (e : WordEnum) : Bool := decide (e.members.map (·.2)).Nodup

theorem IntegerEnum.ofValue?_value {e : IntegerEnum} (h : e.orderly = true)
    (i : Fin e.members.length) : e.ofValue? (e.value i) = some i := by
  rw [orderly, Bool.and_eq_true, decide_eq_true_iff] at h
  exact findFinIdx?_get Prod.snd e.members h.1 i

theorem IntegerEnum.value_le {e : IntegerEnum} (h : e.orderly = true) (i : Fin e.members.length) :
    (e.value i : Int) ≤ IntegerRange.uinteger.greatest := by
  rw [orderly, Bool.and_eq_true] at h
  exact decide_eq_true_iff.mp (List.all_eq_true.mp h.2 _ (List.get_mem e.members i))

theorem WordEnum.ofWord?_word {e : WordEnum} (h : e.orderly = true) (i : Fin e.members.length) :
    e.ofWord? (e.word i) = some i :=
  findFinIdx?_get Prod.snd e.members (of_decide_eq_true h) i

def Schema.isList : Schema → Bool
  | .list _ => true
  | _ => false

def Schema.isEmptyList : (s : Schema) → s.Val → Bool
  | .list _ => fun items => List.isEmpty items
  | _ => fun _ => false

def Variants.emptyUnder (label : String) : (variants : Variants) → variants.Val → Bool
  | .nil => Empty.elim
  | .cons _ own _ type rest =>
    Sum.elim (fun x => own == label && type.isEmptyList x) (rest.emptyUnder label)

theorem Schema.isList_of_isEmptyList {s : Schema} {x : s.Val} (h : s.isEmptyList x = true) :
    s.isList = true := by
  cases s with
  | list item => rfl
  | _ => cases h

theorem Schema.eq_empty_of_isEmptyList {s : Schema} {x : s.Val} (hx : s.isEmptyList x = true)
    {value : Json} {cx : Context} (h : s.decoder.decode value cx = .ok x) : value = .array [] := by
  cases s with
  | list item =>
    cases value with
    | array items =>
      have hnil : x = [] := List.isEmpty_iff.mp hx
      cases items with
      | nil => rfl
      | cons first rest =>
        obtain ⟨_, -, h⟩ := bind_eq_ok_iff.mp h
        obtain ⟨_, -, h⟩ := bind_eq_ok_iff.mp h
        rw [hnil] at h
        cases h
    | _ => cases h
  | _ => cases hx

theorem Schema.isEmptyList_of_decode {s : Schema} (hs : s.isList = true) {x : s.Val} {cx : Context}
    (h : s.decoder.decode (.array []) cx = .ok x) : s.isEmptyList x = true := by
  cases s with
  | list item => cases h; rfl
  | _ => cases hs

mutual

/-- Surely reads an empty list. -/
def Schema.takesEmptyList : Schema → Bool
  | .list _ => true
  | .union _ variants => variants.takesEmptyList
  | _ => false

def Variants.takesEmptyList : Variants → Bool
  | .nil => false
  | .cons _ _ _ type rest => type.takesEmptyList || rest.takesEmptyList

end

section

variable {name label : String} {mark : Option String} {type : Schema} {rest : Variants}
  {value : Json} {cx : Context}

theorem Variants.first_inl {x : type.Val} (h : type.decoder.decode value cx.strict = .ok x) :
    Union.First (Variants.cons name label mark type rest).alternatives value cx (.inl x) :=
  Union.first_cons_of_ok (map_eq_ok_iff.mpr ⟨x, h, rfl⟩)

theorem Variants.first_inr (hnot : ∀ x, type.decoder.decode value cx.strict ≠ .ok x)
    {y : rest.Val} (h : Union.First rest.alternatives value cx y) :
    Union.First (Variants.cons name label mark type rest).alternatives value cx (.inr y) := by
  refine Union.first_cons_of_not (fun v hv => ?_) (h.map Sum.inr)
  obtain ⟨x, hx, -⟩ := map_eq_ok_iff.mp hv
  exact hnot x hx

theorem Schema.decode_of_first {variants : Variants} (hs : variants.faithful = true)
    (hvalue : value.WellFormed) {x : variants.Val}
    (h : Union.First variants.alternatives value cx x) :
    (Schema.union name variants).decoder.decode value cx = .ok x :=
  h.decode_eq fun a ha _ hv =>
    congrArg some (Variants.encode_of_alternative variants hs a ha hvalue rfl hv)

end

mutual

theorem Schema.decode_empty : ∀ s : Schema, s.takesEmptyList = true → s.faithful = true →
    ∀ cx : Context, ∃ x, s.decoder.decode (.array []) cx = .ok x
  | .list _, _, _, _ => ⟨[], rfl⟩
  | .union _ variants, h, hs, cx => by
    obtain ⟨x, hx⟩ := Variants.first_empty variants h hs cx
    exact ⟨x, Schema.decode_of_first hs ((Json.wellFormed_array_iff []).mpr (by simp)) hx⟩

theorem Variants.first_empty : ∀ variants : Variants, variants.takesEmptyList = true →
    variants.faithful = true → ∀ cx : Context,
      ∃ x, Union.First variants.alternatives (.array []) cx x
  | .cons _ _ _ type rest, h, hs, cx => by
    simp only [Variants.faithful, Bool.and_eq_true] at hs
    rw [Variants.takesEmptyList, Bool.or_eq_true] at h
    cases hd : type.decoder.decode (.array []) cx.strict with
    | ok x => exact ⟨_, Variants.first_inl hd⟩
    | error e =>
      have hnot : ∀ x, type.decoder.decode (.array []) cx.strict ≠ .ok x := fun x hx => by
        rw [hd] at hx
        cases hx
      rcases h with h | h
      · obtain ⟨x, hx⟩ := Schema.decode_empty type h hs.1 cx.strict
        exact absurd hx (hnot x)
      · obtain ⟨x, hx⟩ := Variants.first_empty rest h hs.2 cx
        exact ⟨_, Variants.first_inr hnot hx⟩

end

def Variants.hidden (label : String) : Variants → Bool
  | .nil => true
  | .cons _ own _ type rest =>
    !(own == label && type.isList) && (type.takesEmptyList || rest.hidden label)

theorem Variants.first_of_hidden {label : String} : ∀ variants : Variants,
    variants.faithful = true → variants.hidden label = true → ∀ x : variants.Val,
      variants.emptyUnder label x = true → ∀ cx : Context,
        ∃ u, Union.First variants.alternatives (.array []) cx u ∧
          variants.emptyUnder label u = false
  | .nil, _, _, x, _, _ => x.elim
  | .cons _ own _ type rest, hs, h, x, hx, cx => by
    simp only [Variants.faithful, Bool.and_eq_true] at hs
    simp only [Variants.hidden, Bool.and_eq_true, Bool.or_eq_true] at h
    obtain ⟨hown, h⟩ := h
    have hshown : ∀ y, (own == label && type.isEmptyList y) = false := by
      intro y
      rw [Bool.eq_false_iff]
      intro hy
      rw [Bool.and_eq_true] at hy
      rw [hy.1, Schema.isList_of_isEmptyList hy.2] at hown
      cases hown
    cases hd : type.decoder.decode (.array []) cx.strict with
    | ok y => exact ⟨_, Variants.first_inl hd, hshown y⟩
    | error e =>
      have hnot : ∀ y, type.decoder.decode (.array []) cx.strict ≠ .ok y := fun y hy => by
        rw [hd] at hy
        cases hy
      have hrest : rest.hidden label = true := by
        refine h.resolve_left fun htakes => ?_
        obtain ⟨y, hy⟩ := Schema.decode_empty type htakes hs.1 cx.strict
        exact hnot y hy
      cases x with
      | inl y =>
        change (own == label && type.isEmptyList y) = true at hx
        rw [hshown] at hx
        cases hx
      | inr y =>
        obtain ⟨u, hfirst, hu⟩ := Variants.first_of_hidden rest hs.2 hrest y hx cx
        exact ⟨_, Variants.first_inr hnot hfirst, hu⟩

theorem Variants.eq_empty_of_emptyUnder {label : String} : ∀ variants : Variants,
    ∀ a ∈ variants.alternatives, ∀ {value : Json} {cx : Context} {x : variants.Val},
      a.decode value cx = .ok x → variants.emptyUnder label x = true → value = .array []
  | .nil, _, ha, _, _, _, _, _ => by cases ha
  | .cons _ own _ type rest, a, ha, value, cx, x, h, hx => by
    rcases List.mem_cons.mp ha with rfl | ha
    · obtain ⟨y, hy, rfl⟩ := map_eq_ok_iff.mp h
      change (own == label && type.isEmptyList y) = true at hx
      rw [Bool.and_eq_true] at hx
      exact Schema.eq_empty_of_isEmptyList hx.2 hy
    · obtain ⟨b, hb, rfl⟩ := List.mem_map.mp ha
      obtain ⟨y, hy, rfl⟩ := map_eq_ok_iff.mp h
      exact Variants.eq_empty_of_emptyUnder rest b hb hy hx

theorem Schema.emptyUnder_of_decode {name label : String} {variants : Variants}
    (hs : variants.faithful = true) (h : variants.hidden label = true) {value : Json}
    {cx : Context} {x : variants.Val}
    (hx : (Schema.union name variants).decoder.decode value cx = .ok x) :
    variants.emptyUnder label x = false := by
  rw [Bool.eq_false_iff]
  intro hempty
  have hvalue : value = .array [] := by
    obtain ⟨a, ha, hstrict | hcaller⟩ := Schema.exists_alternative_of_decode hx
    · exact Variants.eq_empty_of_emptyUnder variants a ha hstrict hempty
    · exact Variants.eq_empty_of_emptyUnder variants a ha hcaller hempty
  obtain ⟨u, hfirst, hu⟩ := Variants.first_of_hidden variants hs h x hempty cx
  rw [hvalue] at hx
  change Union.decode name (fun x => some (variants.encode x)) variants.alternatives _ cx =
    .ok x at hx
  rw [hfirst.eq_of_decode hx, hu] at hempty
  cases hempty

def hidesEmpty (union label : String) : Bool := union == "DefinitionResult" && label == "Links"

/-- Each variant is apart from the type in front of it, and shares the empty list with it only
where that is hidden. -/
def Variants.behind (union : String) (front : Schema) : Variants → Bool
  | .nil => true
  | .cons _ label _ type rest =>
    front.apart type &&
      (!(front.kinds.contains "array" && type.kinds.contains "array") ||
        hidesEmpty union label && type.isList) &&
      rest.behind union front

theorem Variants.not_accepts_of_behind {union : String} {front : Schema} : ∀ variants : Variants,
    variants.behind union front = true → ∀ a ∈ variants.alternatives, ∀ {value : Json}
      {cx : Context} {x : variants.Val}, cx.options = .strict → a.decode value cx = .ok x →
        ¬(union = "DefinitionResult" ∧ variants.emptyUnder "Links" x = true) →
          ¬ front.Accepts value
  | .nil, _, _, ha, _, _, _, _, _, _ => by cases ha
  | .cons _ label _ type rest, h, a, ha, value, cx, x, hcx, hx, hshown => by
    simp only [Variants.behind, Bool.and_eq_true] at h
    obtain ⟨⟨hapart, hlist⟩, hrest⟩ := h
    rcases List.mem_cons.mp ha with rfl | ha
    · obtain ⟨y, hy, rfl⟩ := map_eq_ok_iff.mp hx
      intro hfront
      have hvalue := Schema.eq_empty_of_apart hapart hfront ⟨cx, y, hcx, hy⟩
      rw [hvalue] at hy hfront
      -- Both read the empty list, so this is where it is hidden.
      obtain ⟨_, _, -, hread⟩ := hfront
      have hkinds : (front.kinds.contains "array" && type.kinds.contains "array") = true := by
        rw [Bool.and_eq_true, List.contains_iff_mem, List.contains_iff_mem]
        exact ⟨Schema.kind_mem_of_decode front hread, Schema.kind_mem_of_decode type hy⟩
      rw [hkinds, Bool.not_true, Bool.false_or, Bool.and_eq_true, hidesEmpty, Bool.and_eq_true,
        beq_iff_eq] at hlist
      refine hshown ⟨hlist.1.1, ?_⟩
      change (label == "Links" && type.isEmptyList y) = true
      rw [hlist.1.2, Schema.isEmptyList_of_decode hlist.2 hy]
      rfl
    · obtain ⟨b, hb, rfl⟩ := List.mem_map.mp ha
      obtain ⟨y, hy, rfl⟩ := map_eq_ok_iff.mp hx
      exact Variants.not_accepts_of_behind rest hrest b hb hcx hy hshown

def Variants.separate (union : String) : Variants → Bool
  | .nil => true
  | .cons _ _ _ type rest => rest.behind union type && rest.separate union

def Fields.holdsWord (key word : String) : Fields → Bool
  | .nil => false
  | .cons form type rest =>
    form.key == key && form.mode == .required &&
      (match type with
        | .literal _ own => own == word
        | _ => false) ||
      rest.holdsWord key word

/-- The objects of the type have this mark under the key: a word, or nothing at all. -/
def Schema.bears (key : String) (mark : Option String) : Schema → Bool
  | .record _ fields =>
    match mark with
    | some word => fields.holdsWord key word
    | none => !fields.keys.contains key
  | _ => false

theorem Fields.get?_write_of_holdsWord {key word : String} : ∀ fields : Fields,
    fields.faithful = true → fields.holdsWord key word = true → ∀ values : fields.Val,
      Members.get? (fields.write values) key = some (.string word)
  | .nil, _, h, _ => by cases h
  | .cons form type rest, hs, h, (value, values) => by
    rw [Fields.get?_write_cons hs]
    simp only [Fields.holdsWord, Bool.or_eq_true, Bool.and_eq_true, beq_iff_eq] at h
    obtain ⟨-, -, hnot, hrest⟩ := Fields.faithful_cons.mp hs
    rcases h with ⟨⟨hkey, hmode⟩, hword⟩ | h
    · obtain ⟨own, label, written, leftOut, mode⟩ := form
      cases hmode
      rw [if_pos hkey.symm]
      cases type with
      | literal name own =>
        exact congrArg (fun word => some (Json.string word)) (beq_iff_eq.mp hword)
      | _ => cases hword
    · have ih := Fields.get?_write_of_holdsWord rest hrest h values
      have hmem : key ∈ rest.keys := by
        refine Decidable.byContradiction fun hkey => ?_
        rw [rest.get?_write_of_notMem hrest values hkey] at ih
        cases ih
      rw [if_neg fun (heq : key = form.key) => hnot (heq ▸ hmem)]
      exact ih

theorem Schema.get?_encode_of_bears {s : Schema} {key : String} {mark : Option String}
    (hs : s.faithful = true) (h : s.bears key mark = true) (x : s.Val) :
    (s.encode x).get? key = mark.map Json.string := by
  cases s with
  | record name fields =>
    obtain ⟨target, htarget, -, hget⟩ :=
      Json.sorted_object (fields.write x) (fields.names_write_nodup hs x)
    change Json.get? key (Json.object (fields.write x)).sorted = _
    rw [htarget, Json.get?, hget]
    cases mark with
    | none =>
      have hkey : key ∉ fields.keys := by simpa [bears] using h
      rw [fields.get?_write_of_notMem hs x hkey]
      rfl
    | some word =>
      rw [fields.get?_write_of_holdsWord hs h x]
      rfl
  | _ => cases h

def Variants.marks : Variants → List (Option String)
  | .nil => []
  | .cons _ _ mark _ rest => mark :: rest.marks

def Variants.marked (key : String) : Variants → Bool
  | .nil => true
  | .cons _ _ mark type rest =>
    !rest.marks.contains mark && type.bears key mark && rest.marked key

theorem Variants.mem_marks_of_select : ∀ (variants : Variants) (mark : Option String)
    {decode : Json → Context → Except DecodeError variants.Val},
      variants.select mark = some decode → mark ∈ variants.marks
  | .nil, _, _, h => by cases h
  | .cons _ _ own _ rest, mark, decode, h => by
    rw [Variants.select] at h
    split at h
    · next heq => exact List.mem_cons.mpr (.inl heq.symm)
    · obtain ⟨inner, hinner, -⟩ := Option.map_eq_some_iff.mp h
      exact List.mem_cons_of_mem _ (Variants.mem_marks_of_select rest mark hinner)

def FieldMode.mayBeNull : FieldMode → Bool
  | .required | .optional => false
  | .nullable | .optionalNullable => true

mutual

def Schema.orderly : Schema → Bool
  | .integerEnum e => e.orderly
  | .wordEnum e | .openEnum e => e.orderly
  | .list item | .map item => item.orderly
  | .nullable item => !item.kinds.contains "null" && item.orderly
  | .record _ fields => fields.orderly
  | .union name variants =>
    variants.separate name && (name != "DefinitionResult" || variants.hidden "Links") &&
      variants.orderly
  | .marked _ key variants => variants.marked key && variants.orderly
  | _ => true

def Fields.orderly : Fields → Bool
  | .nil => true
  | .cons form type rest =>
    (!form.mode.mayBeNull || !type.kinds.contains "null") && type.orderly && rest.orderly

def Variants.orderly : Variants → Bool
  | .nil => true
  | .cons _ _ _ type rest => type.orderly && rest.orderly

end

end LspWire
