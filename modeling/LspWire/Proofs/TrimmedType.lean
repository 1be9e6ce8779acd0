import LspWire.Proofs.FaithfulType
import LspWire.Proofs.TrimmedDocument

/-! Reading as a type only trims.
What is read from a well-formed document by a faithful type, on whatever terms, is written as the
document trimmed on those terms: only keys that the records read do not declare are missing. Read
strictly it is written as the document itself. -/

namespace LspWire

theorem Fields.faithful_of_mem {entry : String × FieldMode × Schema} : ∀ {fields : Fields},
    fields.faithful = true → entry ∈ fields.readings → entry.2.2.faithful = true
  | .nil, _, h => by cases h
  | .cons form type rest, hs, h => by
    obtain ⟨-, htype, -, hrest⟩ := Fields.faithful_cons.mp hs
    rcases List.mem_cons.mp h with rfl | h
    · exact htype
    · exact faithful_of_mem hrest h

theorem Variants.faithful_of_mem {type : Schema} : ∀ {variants : Variants},
    variants.faithful = true → type ∈ variants.types → type.faithful = true
  | .nil, _, h => by cases h
  | .cons _ _ _ own rest, hs, h => by
    rw [Variants.faithful, Bool.and_eq_true] at hs
    rcases List.mem_cons.mp h with rfl | h
    · exact hs.1
    · exact faithful_of_mem hs.2 h

theorem Variants.exists_type_of_alternative {value : Json} {cx : Context} :
    ∀ {variants : Variants} {a : Alternative variants.Val} {x : variants.Val},
      a ∈ variants.alternatives → a.decode value cx = .ok x →
        ∃ type ∈ variants.types, ∃ y, type.decoder.decode value cx = .ok y ∧
          variants.write x = type.write y
  | .nil, _, _, ha, _ => by cases ha
  | .cons _ _ _ type rest, a, x, ha, h => by
    rcases List.mem_cons.mp ha with rfl | ha
    · obtain ⟨y, hy, rfl⟩ := map_eq_ok_iff.mp h
      exact ⟨type, List.mem_cons_self, y, hy, rfl⟩
    · obtain ⟨b, hb, rfl⟩ := List.mem_map.mp ha
      obtain ⟨y, hy, rfl⟩ := map_eq_ok_iff.mp h
      obtain ⟨found, hfound, z, hz, hwrite⟩ := exists_type_of_alternative hb hy
      exact ⟨found, List.mem_cons_of_mem _ hfound, z, hz, hwrite⟩

theorem Variants.exists_type_of_select {word : Option String} {value : Json} {cx : Context} :
    ∀ {variants : Variants} {decode : Json → Context → Except DecodeError variants.Val}
      {x : variants.Val}, variants.select word = some decode → decode value cx = .ok x →
        ∃ type, variants.typeOf? word = some type ∧ ∃ y, type.decoder.decode value cx = .ok y ∧
          variants.write x = type.write y
  | .nil, _, _, hselect, _ => by cases hselect
  | .cons _ _ mark type rest, decode, x, hselect, h => by
    rw [Variants.select] at hselect
    rw [typeOf?]
    split at hselect
    · next hmark =>
      cases hselect
      obtain ⟨y, hy, rfl⟩ := map_eq_ok_iff.mp h
      exact ⟨type, if_pos hmark, y, hy, rfl⟩
    · next hmark =>
      obtain ⟨inner, hinner, rfl⟩ := Option.map_eq_some_iff.mp hselect
      obtain ⟨y, hy, rfl⟩ := map_eq_ok_iff.mp h
      obtain ⟨found, hfound, z, hz, hwrite⟩ := exists_type_of_select hinner hy
      exact ⟨found, (if_neg hmark).trans hfound, z, hz, hwrite⟩

section

variable {R : Json → Json → Prop}

theorem FieldMode.rel_of_reader {mode : FieldMode} {type : Schema}
    (hmode : (mode == .required && type.suppliesAbsent) = false) {key : String}
    {held : Option Json} {cx : Context} (hnull : R .null .null)
    (h : ∀ value x, held = some value → type.decoder.decode value (cx.field key) = .ok x →
      R (type.encode x) value) {a : mode.Of type.Val}
    (ha : mode.reader type.decoder key held cx = .ok a) :
    Option.Rel R ((mode.write type.write a).map Json.sorted) held := by
  cases mode with
  | required =>
    cases held with
    | none =>
      have habsent : type.suppliesAbsent = false := by simpa using hmode
      change type.decoder.absent key cx = .ok a at ha
      rw [Schema.decoder_absent habsent] at ha
      cases ha
    | some value => exact .some (h value a rfl ha)
  | optional =>
    cases held with
    | none => cases ha; exact .none
    | some value =>
      obtain ⟨x, hx, rfl⟩ := map_eq_ok_iff.mp ha
      exact .some (h value x rfl hx)
  | nullable =>
    rcases FieldReader.nullable_eq_ok_iff.mp ha with ⟨rfl, rfl⟩ | ⟨value, x, rfl, -, hx, rfl⟩
    · exact .some hnull
    · exact .some (h value x rfl hx)
  | optionalNullable =>
    rcases FieldReader.optionalNullable_eq_ok_iff.mp ha with
      ⟨rfl, rfl⟩ | ⟨rfl, rfl⟩ | ⟨value, x, rfl, -, hx, rfl⟩
    · exact .none
    · exact .some hnull
    · exact .some (h value x rfl hx)

end

theorem Fields.rel_of_collect {R : Schema → Json → Json → Prop} (hnull : ∀ s, R s .null .null)
    {members : Members} {cx : Context} : ∀ {fields : Fields} {values : fields.Val},
      fields.faithful = true → fields.collect members cx = .ok values →
        (∀ entry ∈ fields.readings, ∀ value x, members.get? entry.1 = some value →
          entry.2.2.decoder.decode value (cx.field entry.1) = .ok x →
            R entry.2.2 (entry.2.2.encode x) value) →
          ∀ entry ∈ fields.readings, Option.Rel (R entry.2.2)
            ((Members.get? (fields.write values) entry.1).map Json.sorted) (members.get? entry.1)
  | .nil, _, _, _, _, _, hentry => by cases hentry
  | .cons form type rest, (value, values), hs, h, hread, entry, hentry => by
    obtain ⟨hform, htype, hnot, hrest⟩ := Fields.faithful_cons.mp hs
    obtain ⟨hvalue, hvalues⟩ := collect_cons_eq_ok_iff.mp h
    rw [readings, List.forall_mem_cons] at hread
    rw [Fields.get?_write_cons hs]
    rcases List.mem_cons.mp hentry with rfl | hentry
    · rw [if_pos rfl]
      exact FieldMode.rel_of_reader (FieldForm.required_of_faithful hform) (hnull type) hread.1
        hvalue
    · have hkey : entry.1 ∈ rest.keys := mem_keys_iff.mpr ⟨entry.2.1, entry.2.2, hentry⟩
      rw [if_neg fun heq : entry.1 = form.key => hnot (heq ▸ hkey)]
      exact rel_of_collect hnull hrest hvalues hread.2 entry hentry

/-- Whatever is read is written as the document trimmed on the terms of the reader. -/
def Schema.OnlyTrims (s : Schema) : Prop :=
  ∀ value cx x, value.WellFormed → s.decoder.decode value cx = .ok x →
    s.Trims cx.options (s.encode x) value

namespace Schema.OnlyTrims

variable {item : Schema}

theorem decodeItems (h : item.OnlyTrims) {cx : Context} (position : Nat)
    (items : List Json) (hitems : ∀ held ∈ items, held.WellFormed) {xs : List item.Val}
    (hxs : Decoder.decodeItems item.decoder cx position items = .ok xs) :
    (Schema.list item).Trims cx.options (.array (xs.map item.encode)) (.array items) := by
  induction items generalizing position xs with
  | nil => cases hxs; exact .nil item
  | cons held rest ih =>
    obtain ⟨x, hx, hxs⟩ := bind_eq_ok_iff.mp hxs
    obtain ⟨xs, hrest, hxs⟩ := bind_eq_ok_iff.mp hxs
    cases hxs
    rw [List.forall_mem_cons] at hitems
    exact .item (h held (cx.index position) x hitems.1 hx) (ih (position + 1) hitems.2 hrest)

theorem decodeEntries (h : item.OnlyTrims) {cx : Context} (members : Members)
    (hmembers : ∀ member ∈ members, member.2.WellFormed) {entries : List (String × item.Val)}
    (hentries : Decoder.decodeEntries item.decoder cx members = .ok entries) :
    (entries.map fun entry => (entry.1, item.encode entry.2)).map (·.1) = members.names ∧
      (Schema.map item).Trims cx.options
        (.object (entries.map fun entry => (entry.1, item.encode entry.2))) (.object members) := by
  induction members generalizing entries with
  | nil => cases hentries; exact ⟨rfl, .empty item⟩
  | cons member rest ih =>
    obtain ⟨x, hx, hentries⟩ := bind_eq_ok_iff.mp hentries
    obtain ⟨entries, hrest, hentries⟩ := bind_eq_ok_iff.mp hentries
    cases hentries
    rw [List.forall_mem_cons] at hmembers
    obtain ⟨hnames, htrims⟩ := ih hmembers.2 hrest
    exact ⟨congrArg (member.1 :: ·) hnames,
      .entry member.1 (h member.2 (cx.entry member.1) x hmembers.1 hx) htrims⟩

theorem list (h : item.OnlyTrims) : (Schema.list item).OnlyTrims := by
  intro value cx xs hvalue hread
  cases value with
  | array items =>
    have hencode : (Schema.list item).encode xs = .array (List.map item.encode xs) :=
      encode_list item xs
    rw [hencode]
    exact h.decodeItems 0 items ((Json.wellFormed_array_iff items).mp hvalue) hread
  | _ => cases hread

theorem map (h : item.OnlyTrims) : (Schema.map item).OnlyTrims := by
  intro value cx entries hvalue hread
  cases value with
  | object members =>
    obtain ⟨hascending, hmembers⟩ := (Json.wellFormed_object_iff members).mp hvalue
    obtain ⟨hnames, htrims⟩ := h.decodeEntries members hmembers hread
    have hentries : Ascending
        (List.map (fun entry => (entry.1, item.encode entry.2)) entries) := by
      refine List.pairwise_map.mp ?_
      rw [hnames]
      exact List.pairwise_map.mpr hascending
    have hencode : (Schema.map item).encode entries = .object (Members.ordered _) :=
      encode_map item entries
    rw [hencode, Members.ordered_of_ascending hentries]
    exact htrims
  | _ => cases hread

theorem nullable (h : item.OnlyTrims) : (Schema.nullable item).OnlyTrims := by
  intro value cx x hvalue hread
  cases value with
  | null => cases hread; exact .scalar rfl
  | _ =>
    obtain ⟨y, hy, rfl⟩ := map_eq_ok_iff.mp hread
    exact .nullable (h _ cx y hvalue hy)

theorem record {name : String} {fields : Fields} (hs : fields.faithful = true)
    (h : ∀ entry ∈ fields.readings, entry.2.2.OnlyTrims) :
    (Schema.record name fields).OnlyTrims := by
  intro value cx values hvalue hread
  obtain ⟨members, rfl, hcollect, hnames⟩ := fields.gives_read.decode_eq_ok_iff.mp hread
  obtain ⟨target, htarget, -, hget⟩ :=
    Json.sorted_object (fields.write values) (fields.names_write_nodup hs values)
  change Trims cx.options _ (Json.object (fields.write values)).sorted _
  rw [htarget]
  refine Trims.record_of_rel (fun key hkey => ?_) hnames fun entry hentry => ?_
  · rw [Members.mem_names_iff, hget, Option.isSome_map, ← Members.mem_names_iff] at hkey
    exact (fields.names_write_sublist hs values).subset hkey
  · rw [hget]
    refine Fields.rel_of_collect (fun _ => .scalar rfl) hs hcollect ?_ entry hentry
    intro entry hentry held x hheld hx
    exact h entry hentry held (cx.field entry.1) x (hvalue.of_get? hheld) hx

theorem union {name : String} {variants : Variants}
    (h : ∀ type ∈ variants.types, type.OnlyTrims) : (Schema.union name variants).OnlyTrims := by
  intro value cx x hvalue hread
  obtain ⟨a, ha, hx | hx⟩ := exists_alternative_of_decode hread
  · obtain ⟨type, htype, y, hy, hwrite⟩ := Variants.exists_type_of_alternative ha hx
    have htrims := h type htype value cx.strict y hvalue hy
    have hencode : (Schema.union name variants).encode x = type.encode y :=
      congrArg Json.sorted hwrite
    rw [hencode]
    exact .union htype (htrims.relax cx.options)
  · obtain ⟨type, htype, y, hy, hwrite⟩ := Variants.exists_type_of_alternative ha hx
    have htrims := h type htype value cx y hvalue hy
    have hencode : (Schema.union name variants).encode x = type.encode y :=
      congrArg Json.sorted hwrite
    rw [hencode]
    exact .union htype htrims

theorem marked {name key : String} {variants : Variants}
    (h : ∀ type ∈ variants.types, type.OnlyTrims) :
    (Schema.marked name key variants).OnlyTrims := by
  intro value cx x hvalue hread
  obtain ⟨word, decode, hword, hselect, hx⟩ := Decoder.exists_select_of_marked hread
  obtain ⟨type, htype, y, hy, hwrite⟩ := Variants.exists_type_of_select hselect hx
  have htrims := h type (Variants.mem_types_of_typeOf? htype) value cx y hvalue hy
  have hencode : (Schema.marked name key variants).encode x = type.encode y :=
    congrArg Json.sorted hwrite
  rw [hencode]
  exact .marked hword htype htrims

end Schema.OnlyTrims

theorem Schema.onlyTrims (s : Schema) : s.faithful = true → s.OnlyTrims := by
  induction s using Schema.parts_induction with
  | boolean =>
    intro _ value cx b _ h
    cases value with
    | bool b => cases h; exact .scalar rfl
    | _ => cases h
  | string =>
    intro _ value cx x _ h
    rw [(Decoder.string_decode_eq_ok_iff value cx x).mp h]
    exact .scalar rfl
  | integer =>
    intro _ value cx x _ h
    rw [(Decoder.integer_decode_eq_ok_iff value cx x).mp h]
    exact .scalar rfl
  | uinteger =>
    intro _ value cx x _ h
    rw [((Decoder.uinteger_decode_eq_ok_iff value cx x).mp h).1]
    exact .scalar rfl
  | decimal => intro hs; cases hs
  | any =>
    intro _ value cx x hvalue h
    cases h
    have hsorted : Schema.any.encode value = value := Json.sorted_of_wellFormed value hvalue
    rw [hsorted]
    exact .any value
  | object =>
    intro _ value cx x hvalue h
    cases value with
    | object members =>
      cases h
      have hsorted : Schema.object.encode x = .object x :=
        Json.sorted_of_wellFormed (.object x) hvalue
      rw [hsorted]
      exact .object _
    | _ => cases h
  | null | noParams =>
    intro _ value cx x _ h
    rw [(Decoder.null_decode_eq_ok_iff value cx).mp h]
    exact .scalar rfl
  | numberOrString =>
    intro _ value cx x _ h
    rw [(Decoder.numberOrString_decode_eq_ok_iff value cx x).mp h]
    cases x <;> exact .scalar rfl
  | literal _ word =>
    intro _ value cx x _ h
    rw [(Decoder.literal_decode_eq_ok_iff word value cx).mp h]
    exact .scalar rfl
  | integerEnum e =>
    intro _ value cx i _ h
    obtain ⟨n, hn, hi⟩ := (Decoder.integerEnum_decode_eq_ok_iff e value cx i).mp h
    rw [((Decoder.uinteger_decode_eq_ok_iff value cx n).mp hn).1,
      ← IntegerEnum.value_of_ofValue? hi]
    exact .scalar rfl
  | wordEnum e =>
    intro _ value cx i _ h
    obtain ⟨word, rfl, hi⟩ := (Decoder.wordEnum_decode_eq_ok_iff e value cx i).mp h
    rw [← WordEnum.word_of_ofWord? hi]
    exact .scalar rfl
  | openEnum e =>
    intro _ value cx w _ h
    obtain ⟨word, rfl, rfl⟩ := (Decoder.openEnum_decode_eq_ok_iff e value cx w).mp h
    have hword : (openEnum e).encode (OpenWord.ofWord e word) = .string word :=
      congrArg Json.string (OpenWord.word_ofWord e word)
    rw [hword]
    exact .scalar rfl
  | list item ih => exact fun hs => (ih hs).list
  | map item ih => exact fun hs => (ih hs).map
  | nullable item ih => exact fun hs => (ih hs).nullable
  | record name fields ih =>
    intro hs
    exact .record hs fun entry hentry => ih entry hentry (Fields.faithful_of_mem hs hentry)
  | union name variants ih =>
    intro hs
    exact .union fun type htype => ih type htype (Variants.faithful_of_mem hs htype)
  | marked name key variants ih =>
    intro hs
    exact .marked fun type htype => ih type htype (Variants.faithful_of_mem hs htype)

def Lossless {α : Type} (d : Decoder α) (encode : α → Json) : Prop :=
  ∀ value cx a, value.WellFormed → cx.options = .strict → d.decode value cx = .ok a →
    encode a = value

theorem Schema.lossless (s : Schema) (hs : s.faithful = true) : Lossless s.decoder s.encode := by
  intro value cx x hvalue hcx h
  have htrims := s.onlyTrims hs value cx x hvalue h
  exact htrims.eq_of_strict (by rw [hcx]; rfl) (Json.wellFormed_sorted _) hvalue

theorem Variants.encode_of_alternative (variants : Variants) (hs : variants.faithful = true)
    (a : Alternative variants.Val) (ha : a ∈ variants.alternatives) {value : Json} {cx : Context}
    {x : variants.Val} (hvalue : value.WellFormed) (hcx : cx.options = .strict)
    (h : a.decode value cx = .ok x) : variants.encode x = value := by
  obtain ⟨type, htype, y, hy, hwrite⟩ := exists_type_of_alternative ha h
  have hlossless := type.lossless (faithful_of_mem hs htype) value cx y hvalue hcx hy
  exact (congrArg Json.sorted hwrite).trans hlossless

end LspWire
