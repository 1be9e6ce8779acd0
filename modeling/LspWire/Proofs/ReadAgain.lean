import LspWire.Proofs.CanonicalValue

/-! Canonical values are read back from their encodings.
A record finds under each key what it wrote there; a union finds its variant to be the first strict
match, and a marked one finds its variant by the mark. This does not depend on whether unknown keys
are refused, for an encoding has none. -/

namespace LspWire

namespace Decoder

variable {α : Type} {d : Decoder α} {encode : α → Json}

theorem decodeItems_map (items : List α)
    (h : ∀ x ∈ items, ∀ cx, d.decode (encode x) cx = .ok x) (cx : Context) (position : Nat) :
    decodeItems d cx position (items.map encode) = .ok items := by
  induction items generalizing position with
  | nil => rfl
  | cons x rest ih =>
    rw [List.forall_mem_cons] at h
    rw [List.map_cons, decodeItems, h.1, ih h.2]
    rfl

theorem decodeEntries_map (entries : List (String × α))
    (h : ∀ entry ∈ entries, ∀ cx, d.decode (encode entry.2) cx = .ok entry.2) (cx : Context) :
    decodeEntries d cx (entries.map fun entry => (entry.1, encode entry.2)) = .ok entries := by
  induction entries with
  | nil => rfl
  | cons entry rest ih =>
    rw [List.forall_mem_cons] at h
    rw [List.map_cons, decodeEntries, h.1, ih h.2]
    rfl

theorem nullable_decode_of_ne_null {value : Json} (h : value ≠ .null) (cx : Context) :
    d.nullable.decode value cx = (d.decode value cx).map .value := by
  cases value with
  | null => exact absurd rfl h
  | _ => rfl

theorem marked_decode {name key : String}
    {select : Option String → Option (Json → Context → Except DecodeError α)} {value : Json}
    {mark : Option String} (hmark : value.get? key = mark.map Json.string)
    {decode : Json → Context → Except DecodeError α} (hselect : select mark = some decode)
    (cx : Context) : (marked name key select).decode value cx = decode value cx := by
  rw [marked_decode_eq, markUnder_eq_some_iff.mpr hmark, Option.bind_some, hselect]

end Decoder

theorem OpenWord.ofWord_word {e : WordEnum} (he : e.orderly = true) (w : OpenWord e)
    (hw : ∀ word, w = .custom word → e.ofWord? word = none) : OpenWord.ofWord e w.word = w := by
  cases w with
  | listed i =>
    rw [OpenWord.word, OpenWord.ofWord, WordEnum.ofWord?_word he]
  | custom word =>
    rw [OpenWord.word, OpenWord.ofWord, hw word rfl]

theorem Decoder.integerEnum_decode_value {e : IntegerEnum} (he : e.orderly = true)
    (i : Fin e.members.length) (cx : Context) :
    (integerEnum e).decode (.number (.integer (e.value i))) cx = .ok i := by
  have hle := IntegerEnum.value_le he i
  have hnat : (UInt32.ofNat (e.value i)).toNat = e.value i := by
    refine UInt32.toNat_ofNat_of_lt' ?_
    simp only [IntegerRange.uinteger] at hle
    simp [UInt32.size]
    omega
  refine (integerEnum_decode_eq_ok_iff e _ cx i).mpr ⟨UInt32.ofNat (e.value i), ?_, ?_⟩
  · rw [uinteger_decode_eq_ok_iff, hnat]
    exact ⟨rfl, hle⟩
  · rw [hnat]
    exact IntegerEnum.ofValue?_value he i

theorem FieldMode.reader_of_write {mode : FieldMode} {type : Schema}
    (hnull : mode.mayBeNull = true → "null" ∉ type.kinds) {key : String} {cx : Context}
    {a : mode.Of type.Val}
    (h : ∀ x, mode.value? a = some x →
      type.decoder.decode (type.encode x) (cx.field key) = .ok x) :
    mode.reader type.decoder key ((mode.write type.write a).map Json.sorted) cx = .ok a := by
  cases mode with
  | required => exact h a rfl
  | optional =>
    cases a with
    | none => rfl
    | some x => exact map_eq_ok_iff.mpr ⟨x, h x rfl, rfl⟩
  | nullable =>
    refine FieldReader.nullable_eq_ok_iff.mpr ?_
    cases a with
    | null => exact .inl ⟨rfl, rfl⟩
    | value x =>
      exact .inr ⟨type.encode x, x, rfl, Schema.encode_ne_null (hnull rfl) x, h x rfl, rfl⟩
  | optionalNullable =>
    refine FieldReader.optionalNullable_eq_ok_iff.mpr ?_
    cases a with
    | absent => exact .inl ⟨rfl, rfl⟩
    | null => exact .inr (.inl ⟨rfl, rfl⟩)
    | value x =>
      exact .inr (.inr
        ⟨type.encode x, x, rfl, Schema.encode_ne_null (hnull rfl) x, h x rfl, rfl⟩)

mutual

theorem Schema.decode_encode : ∀ s : Schema, s.faithful = true → s.orderly = true →
    ∀ x : s.Val, s.Valid x → s.Canonical x → ∀ cx : Context,
      s.decoder.decode (s.encode x) cx = .ok x
  | .boolean, _, _, _, _, _, _ | .string, _, _, _, _, _, _ | .null, _, _, _, _, _, _
  | .noParams, _, _, _, _, _, _ => rfl
  | .integer, _, _, n, _, _, cx => (Decoder.integer_decode_eq_ok_iff _ cx n).mpr rfl
  | .uinteger, _, _, n, _, hn, cx => (Decoder.uinteger_decode_eq_ok_iff _ cx n).mpr ⟨rfl, hn⟩
  | .any, _, _, value, hvalue, _, _ => congrArg Except.ok (Json.sorted_of_wellFormed value hvalue)
  | .object, _, _, members, hmembers, _, cx => by
    change Decoder.object.decode (Json.object members).sorted cx = _
    rw [Json.sorted_of_wellFormed _ hmembers]
    rfl
  | .numberOrString, _, _, x, _, _, cx => by
    refine (Decoder.numberOrString_decode_eq_ok_iff _ cx x).mpr ?_
    cases x <;> rfl
  | .literal _ word, _, _, _, _, _, cx => (Decoder.literal_decode_eq_ok_iff word _ cx).mpr rfl
  | .integerEnum e, _, ho, i, _, _, cx => Decoder.integerEnum_decode_value ho i cx
  | .wordEnum e, _, ho, i, _, _, cx =>
    (Decoder.wordEnum_decode_eq_ok_iff e _ cx i).mpr ⟨e.word i, rfl, WordEnum.ofWord?_word ho i⟩
  | .openEnum e, _, ho, w, _, hw, cx =>
    (Decoder.openEnum_decode_eq_ok_iff e _ cx w).mpr ⟨w.word, rfl, OpenWord.ofWord_word ho w hw⟩
  | .list item, hs, ho, items, hvalid, hcanonical, cx => by
    have hencode := Schema.encode_list item items
    refine (congrArg ((Schema.list item).decoder.decode · cx) hencode).trans ?_
    exact Decoder.decodeItems_map items (fun x hx cx =>
      Schema.decode_encode item hs ho x (hvalid.2 x hx) (hcanonical.2 x hx) cx) cx 0
  | .map item, hs, ho, entries, hvalid, hcanonical, cx => by
    have hascending := (ascending_map item.encode entries).mpr hvalid.1
    have hencode := Schema.encode_map item entries
    refine (congrArg ((Schema.map item).decoder.decode · cx) hencode).trans ?_
    rw [Members.ordered_of_ascending hascending]
    exact Decoder.decodeEntries_map entries (fun entry hentry cx => Schema.decode_encode item hs ho
      entry.2 (hvalid.2 entry hentry) (hcanonical.2 entry hentry) cx) cx
  | .nullable item, hs, ho, x, hvalid, hcanonical, cx => by
    simp only [Schema.orderly, Bool.and_eq_true, Bool.not_eq_true', List.contains_eq_mem,
      decide_eq_false_iff_not] at ho
    cases x with
    | null => rfl
    | value a =>
      have ih := Schema.decode_encode item hs ho.2 a (hvalid.2 a rfl) (hcanonical.2 a rfl) cx
      refine (Decoder.nullable_decode_of_ne_null (Schema.encode_ne_null ho.1 a) cx).trans ?_
      rw [ih]
      rfl
  | .record name fields, hs, ho, values, hvalid, hcanonical, cx => by
    obtain ⟨target, htarget, -, hget⟩ :=
      Json.sorted_object (fields.write values) (fields.names_write_nodup hs values)
    change (Schema.record name fields).decoder.decode
      (Json.object (fields.write values)).sorted cx = _
    rw [htarget]
    refine fields.gives_read.decode_eq_ok_iff.mpr ⟨target, rfl, ?_, fun _ key hkey => ?_⟩
    · exact Fields.collect_write fields hs ho values hvalid.2 hcanonical.2 target cx
        fun key _ => hget key
    · rw [Members.mem_names_iff, hget, Option.isSome_map, ← Members.mem_names_iff] at hkey
      exact (fields.names_write_sublist hs values).subset hkey
  | .union name variants, hs, ho, x, hvalid, hcanonical, cx => by
    simp only [Schema.orderly, Bool.and_eq_true] at ho
    have hfirst := Variants.first_encode variants hs ho.2 ho.1.1 x hvalid.2 hcanonical.2
      hcanonical.1 cx
    exact Schema.decode_of_first hs (Json.wellFormed_sorted _) hfirst
  | .marked name key variants, hs, ho, x, hvalid, hcanonical, cx => by
    rw [Schema.orderly, Bool.and_eq_true] at ho
    obtain ⟨mark, decode, hmark, hselect, hdecode⟩ :=
      Variants.select_encode variants hs ho.2 ho.1 x hvalid.2 hcanonical.2 cx
    exact (Decoder.marked_decode hmark hselect cx).trans hdecode

theorem Fields.collect_write : ∀ fields : Fields, fields.faithful = true → fields.orderly = true →
    ∀ values : fields.Val, fields.Everywhere Schema.ValidPart values →
      fields.Everywhere Schema.CanonicalPart values → ∀ (members : Members) (cx : Context),
        (∀ key ∈ fields.keys,
          members.get? key = (Members.get? (fields.write values) key).map Json.sorted) →
          fields.collect members cx = .ok values
  | .nil, _, _, _, _, _, _, _, _ => rfl
  | .cons form type rest, hs, ho, (value, values), hvalid, hcanonical, members, cx, hget => by
    obtain ⟨hform, htype, hnot, hrest⟩ := Fields.faithful_cons.mp hs
    simp only [Fields.orderly, Bool.and_eq_true, Bool.or_eq_true, Bool.not_eq_true',
      List.contains_eq_mem, decide_eq_false_iff_not] at ho
    obtain ⟨⟨hnull, htypeOrderly⟩, hrestOrderly⟩ := ho
    have hfirst :
        form.mode.reader type.decoder form.key (members.get? form.key) cx = .ok value := by
      rw [hget form.key List.mem_cons_self, Fields.get?_write_cons hs, if_pos rfl]
      refine FieldMode.reader_of_write (fun h => hnull.resolve_left (by rw [h]; decide)) ?_
      intro x hx
      exact Schema.decode_encode type htype htypeOrderly x (hvalid.1 x hx) (hcanonical.1 x hx) _
    have hothers : rest.collect members cx = .ok values := by
      refine Fields.collect_write rest hrest hrestOrderly values hvalid.2 hcanonical.2 members cx ?_
      intro key hkey
      have hne : key ≠ form.key := fun heq => hnot (heq ▸ hkey)
      rw [hget key (List.mem_cons_of_mem _ hkey), Fields.get?_write_cons hs, if_neg hne]
    exact Fields.collect_cons_eq_ok_iff.mpr ⟨hfirst, hothers⟩

theorem Variants.first_encode {union : String} : ∀ variants : Variants, variants.faithful = true →
    variants.orderly = true → variants.separate union = true → ∀ x : variants.Val,
      variants.Everywhere Schema.ValidPart x → variants.Everywhere Schema.CanonicalPart x →
        ¬(union = "DefinitionResult" ∧ variants.emptyUnder "Links" x = true) → ∀ cx : Context,
          Union.First variants.alternatives (variants.encode x) cx x
  | .nil, _, _, _, x, _, _, _, _ => x.elim
  | .cons _ _ _ type rest, hs, ho, hseparate, x, hvalid, hcanonical, hshown, cx => by
    simp only [Variants.faithful, Bool.and_eq_true] at hs
    simp only [Variants.orderly, Bool.and_eq_true] at ho
    rw [Variants.separate, Bool.and_eq_true] at hseparate
    cases x with
    | inl y => exact Variants.first_inl (Schema.decode_encode type hs.1 ho.1 y hvalid hcanonical _)
    | inr y =>
      have ih := Variants.first_encode rest hs.2 ho.2 hseparate.2 y hvalid hcanonical hshown cx
      obtain ⟨a, ha, hread⟩ := ih.exists_alternative
      have hnot := Variants.not_accepts_of_behind rest hseparate.1 a ha rfl hread hshown
      exact Variants.first_inr (fun z hz => hnot ⟨cx.strict, z, rfl, hz⟩) ih

theorem Variants.select_encode {key : String} : ∀ variants : Variants, variants.faithful = true →
    variants.orderly = true → variants.marked key = true → ∀ x : variants.Val,
      variants.Everywhere Schema.ValidPart x → variants.Everywhere Schema.CanonicalPart x →
        ∀ cx : Context, ∃ mark decode, (variants.encode x).get? key = mark.map Json.string ∧
          variants.select mark = some decode ∧ decode (variants.encode x) cx = .ok x
  | .nil, _, _, _, x, _, _, _ => x.elim
  | .cons _ _ mark type rest, hs, ho, hmarked, x, hvalid, hcanonical, cx => by
    simp only [Variants.faithful, Bool.and_eq_true] at hs
    simp only [Variants.orderly, Bool.and_eq_true] at ho
    simp only [Variants.marked, Bool.and_eq_true, Bool.not_eq_true', List.contains_eq_mem,
      decide_eq_false_iff_not] at hmarked
    obtain ⟨⟨hnew, hbears⟩, hrest⟩ := hmarked
    cases x with
    | inl y =>
      have ih := Schema.decode_encode type hs.1 ho.1 y hvalid hcanonical cx
      refine ⟨mark, _, Schema.get?_encode_of_bears hs.1 hbears y, if_pos rfl, ?_⟩
      exact map_eq_ok_iff.mpr ⟨y, ih, rfl⟩
    | inr y =>
      obtain ⟨own, decode, hmark, hselect, hread⟩ :=
        Variants.select_encode rest hs.2 ho.2 hrest y hvalid hcanonical cx
      have hne : mark ≠ own := fun heq =>
        hnew (heq ▸ Variants.mem_marks_of_select rest own hselect)
      refine ⟨own, fun value cx => (decode value cx).map Sum.inr, hmark, ?_,
        map_eq_ok_iff.mpr ⟨y, hread, rfl⟩⟩
      rw [Variants.select, if_neg hne, hselect]
      rfl

end

end LspWire
