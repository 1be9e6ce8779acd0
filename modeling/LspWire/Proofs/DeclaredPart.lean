import LspWire.Proofs.Refusal
import LspWire.Proofs.RegisteredType
import LspWire.Proofs.RoundTrip

/-! The declared part of a document.
What a type declares of a document is what remains when every key is deleted that the record read in
its place does not declare; the entries of a map and the contents of an arbitrary value stay. On
permissive terms a type without unions known by shape sees the declared part alone, and reads it as
it would on strict terms. -/

namespace LspWire

def Members.prune (keep : String → Json → Option Json) (members : Members) : Members :=
  members.filterMap fun member => (keep member.1 member.2).map fun kept => (member.1, kept)

mutual

/-- The document without the keys that the records read in it do not declare. -/
def Schema.declared : Schema → Json → Json
  | .list item => fun value =>
    match value with
    | .array items => .array (items.map item.declared)
    | other => other
  | .map item => fun value =>
    match value with
    | .object members => .object (members.map fun member => (member.1, item.declared member.2))
    | other => other
  | .nullable item => item.declared
  | .record _ fields => fun value =>
    match value with
    | .object members => .object (Members.prune fields.declared members)
    | other => other
  | .marked _ key variants => fun value =>
    match Decoder.markUnder key value with
    | some word => variants.declared word value
    | none => value
  | _ => id

/-- What remains of what is held under a key: nothing, where no field has the key. -/
def Fields.declared : Fields → String → Json → Option Json
  | .nil, _, _ => none
  | .cons form type rest, key, value =>
    if form.key = key then some (type.declared value) else rest.declared key value

def Variants.declared : Variants → Option String → Json → Json
  | .nil, _, value => value
  | .cons _ _ mark type rest, word, value =>
    if mark = word then type.declared value else rest.declared word value

end

theorem Variants.declared_of_typeOf? {word : Option String} {type : Schema} {value : Json} :
    ∀ {variants : Variants}, variants.typeOf? word = some type →
      variants.declared word value = type.declared value
  | .nil, h => by cases h
  | .cons _ _ mark own rest, h => by
    rw [typeOf?] at h
    rw [declared]
    split at h
    · next hmark => rw [if_pos hmark, Option.some.inj h]
    · next hmark => rw [if_neg hmark, declared_of_typeOf? h]

theorem Variants.declared_of_no_type {word : Option String} {value : Json} :
    ∀ {variants : Variants}, variants.typeOf? word = none → variants.declared word value = value
  | .nil, _ => rfl
  | .cons _ _ mark own rest, h => by
    rw [typeOf?] at h
    rw [declared]
    split at h
    · cases h
    · next hmark => rw [if_neg hmark, declared_of_no_type h]

theorem Schema.declared_marked (name key : String) (variants : Variants) (value : Json) :
    (Schema.marked name key variants).declared value =
      match (Decoder.markUnder key value).bind variants.typeOf? with
      | some type => type.declared value
      | none => value := by
  change (match Decoder.markUnder key value with
    | some word => variants.declared word value
    | none => value) = _
  cases Decoder.markUnder key value with
  | none => rfl
  | some word =>
    cases htype : variants.typeOf? word with
    | none => simp [htype, Variants.declared_of_no_type htype]
    | some type => simp [htype, Variants.declared_of_typeOf? htype]

theorem Schema.kind_declared (s : Schema) (value : Json) :
    (s.declared value).kind = value.kind := by
  induction s using Schema.parts_induction generalizing value with
  | list | map | record => cases value <;> rfl
  | nullable item ih => exact ih value
  | marked name key variants ih =>
    rw [declared_marked]
    split
    · next type htype =>
      obtain ⟨word, -, htype⟩ := Option.bind_eq_some_iff.mp htype
      exact ih type (Variants.mem_types_of_typeOf? htype) value
    · rfl
  | _ => rfl

theorem Json.eq_null_of_kind {value : Json} (h : value.kind = "null") : value = .null := by
  cases value <;> simp_all [kind]

theorem Schema.declared_eq_null_iff (s : Schema) (value : Json) :
    s.declared value = .null ↔ value = .null := by
  have hkind := s.kind_declared value
  constructor
  · intro h
    rw [h] at hkind
    exact Json.eq_null_of_kind hkind.symm
  · rintro rfl
    exact Json.eq_null_of_kind hkind

theorem Fields.declared_eq_none_iff {key : String} {value : Json} : ∀ {fields : Fields},
    fields.declared key value = none ↔ key ∉ fields.keys
  | .nil => by simp [declared, keys]
  | .cons form _ rest => by
    by_cases h : form.key = key
    · simp [declared, keys, h]
    · simp [declared, keys, h, Ne.symm h, rest.declared_eq_none_iff]

theorem Fields.declared_of_mem {key : String} {mode : FieldMode} {type : Schema} {value : Json} :
    ∀ {fields : Fields}, fields.keys.Nodup → (key, mode, type) ∈ fields.readings →
      fields.declared key value = some (type.declared value)
  | .nil, _, h => by cases h
  | .cons form own rest, hnodup, h => by
    rw [keys, List.nodup_cons] at hnodup
    rw [declared]
    rcases List.mem_cons.mp h with heq | h
    · cases heq
      rw [if_pos rfl]
    · have hkey : key ∈ rest.keys := mem_keys_iff.mpr ⟨mode, type, h⟩
      rw [if_neg fun heq : form.key = key => hnodup.1 (heq ▸ hkey)]
      exact declared_of_mem hnodup.2 h

theorem Fields.get?_prune (fields : Fields) (members : Members) (key : String) :
    (Members.prune fields.declared members).get? key =
      (members.get? key).bind (fields.declared key) := by
  induction members with
  | nil => rfl
  | cons member rest ih =>
    obtain ⟨name, value⟩ := member
    rw [Members.prune] at ih ⊢
    rw [List.filterMap_cons, Members.get?_cons]
    by_cases hname : name = key
    · subst hname
      cases hheld : fields.declared name value with
      | none =>
        have hnone : ∀ held, fields.declared name held = none := fun _ =>
          declared_eq_none_iff.mpr (declared_eq_none_iff.mp hheld)
        simp [ih, funext hnone]
      | some kept => simp [hheld, Members.get?_cons]
    · cases fields.declared name value with
      | none => simp [hname, ih]
      | some kept => simp [hname, ih, Members.get?_cons]

theorem Fields.mem_keys_of_prune {fields : Fields} {members : Members} {key : String}
    (h : key ∈ Members.names (Members.prune fields.declared members)) : key ∈ fields.keys := by
  rw [Members.mem_names_iff, get?_prune] at h
  obtain ⟨kept, hkept⟩ := Option.isSome_iff_exists.mp h
  obtain ⟨value, -, hvalue⟩ := Option.bind_eq_some_iff.mp hkept
  by_contra hkey
  rw [declared_eq_none_iff.mpr hkey] at hvalue
  cases hvalue

theorem Fields.exists_reading_of_holdsWord {key word : String} : ∀ {fields : Fields},
    fields.holdsWord key word = true →
      ∃ name, (key, .required, .literal name word) ∈ fields.readings
  | .nil, h => by cases h
  | .cons form type rest, h => by
    simp only [holdsWord, Bool.or_eq_true, Bool.and_eq_true, beq_iff_eq] at h
    rw [readings]
    rcases h with ⟨⟨hkey, hmode⟩, hword⟩ | h
    · cases type with
      | literal name own =>
        rw [hkey, hmode, beq_iff_eq.mp hword]
        exact ⟨name, List.mem_cons_self⟩
      | _ => cases hword
    · obtain ⟨name, hname⟩ := exists_reading_of_holdsWord h
      exact ⟨name, List.mem_cons_of_mem _ hname⟩

theorem Schema.markUnder_declared {s : Schema} {key : String} {mark : Option String} {value : Json}
    (hs : s.faithful = true) (hbears : s.bears key mark = true)
    (hmark : Decoder.markUnder key value = some mark) :
    Decoder.markUnder key (s.declared value) = some mark := by
  rw [Decoder.markUnder_eq_some_iff] at hmark ⊢
  cases s with
  | record name fields =>
    cases value with
    | object members =>
      change Members.get? members key = mark.map Json.string at hmark
      change Members.get? (Members.prune fields.declared members) key = mark.map Json.string
      rw [fields.get?_prune, hmark]
      cases mark with
      | none => rfl
      | some word =>
        obtain ⟨literal, hliteral⟩ := Fields.exists_reading_of_holdsWord hbears
        exact Fields.declared_of_mem (fields.keys_nodup hs) hliteral
    | _ => exact hmark
  | _ => cases hbears

/-- On permissive terms a document is read as its declared part is on strict ones. -/
def Schema.ReadsDeclared (s : Schema) : Prop :=
  ∀ value path,
    s.decode value ⟨path, .permissive⟩ = s.decode (s.declared value) ⟨path, .strict⟩

theorem Schema.absent_of_options (s : Schema) (key : String) (path : Path)
    (options options' : DecodeOptions) :
    s.decoder.absent key ⟨path, options⟩ = s.decoder.absent key ⟨path, options'⟩ := by
  cases s <;> rfl

theorem FieldReader.nullable_some {α : Type} (d : Decoder α) (name : String) (value : Json)
    (cx : Context) :
    FieldReader.nullable d name (some value) cx = d.nullable.decode value (cx.field name) := by
  cases value <;> rfl

theorem FieldReader.optionalNullable_some {α : Type} (d : Decoder α) (name : String) (value : Json)
    (cx : Context) :
    optionalNullable d name (some value) cx =
      (d.nullable.decode value (cx.field name)).map fun x =>
        match x with
        | .null => .null
        | .value a => .value a := by
  cases value with
  | null => rfl
  | _ =>
    change (d.decode _ (cx.field name)).map Presence.value =
      ((d.decode _ (cx.field name)).map Nullable.value).map _
    cases d.decode _ (cx.field name) <;> rfl

theorem Schema.ReadsDeclared.nullable {item : Schema} (h : item.ReadsDeclared) :
    (Schema.nullable item).ReadsDeclared := by
  intro value path
  by_cases hnull : value = .null
  · have hkept : (Schema.nullable item).declared value = .null :=
      (Schema.declared_eq_null_iff _ value).mpr hnull
    rw [hkept, hnull]
    rfl
  · have hkept : item.declared value ≠ .null := fun h =>
      hnull ((item.declared_eq_null_iff value).mp h)
    change item.decoder.nullable.decode value _ =
      item.decoder.nullable.decode (item.declared value) _
    rw [Decoder.nullable_decode_of_ne_null hnull, Decoder.nullable_decode_of_ne_null hkept]
    exact congrArg (Except.map Nullable.value) (h value path)

theorem FieldMode.reader_declared {type : Schema} (h : type.ReadsDeclared) (mode : FieldMode)
    (key : String) (held : Option Json) (path : Path) :
    mode.reader type.decoder key held ⟨path, .permissive⟩ =
      mode.reader type.decoder key (held.map type.declared) ⟨path, .strict⟩ := by
  cases held with
  | none =>
    cases mode with
    | required => exact type.absent_of_options key path .permissive .strict
    | _ => rfl
  | some value =>
    have hread := h value (path.step (.field key))
    have hnullable := h.nullable value (path.step (.field key))
    rw [Option.map_some]
    cases mode with
    | required => exact hread
    | optional => exact congrArg (Except.map some) hread
    | nullable =>
      rw [reader, FieldReader.nullable_some, FieldReader.nullable_some]
      exact hnullable
    | optionalNullable =>
      rw [reader, FieldReader.optionalNullable_some, FieldReader.optionalNullable_some]
      exact congrArg (Except.map _) hnullable

namespace Schema.ReadsDeclared

variable {item : Schema}

theorem decodeItems (h : item.ReadsDeclared) (path : Path) (position : Nat) (items : List Json) :
    Decoder.decodeItems item.decoder ⟨path, .permissive⟩ position items =
      Decoder.decodeItems item.decoder ⟨path, .strict⟩ position (items.map item.declared) := by
  induction items generalizing position with
  | nil => rfl
  | cons held rest ih =>
    have hheld : item.decoder.decode held (Context.index ⟨path, .permissive⟩ position) = _ :=
      h held (path.step (.index position))
    rw [List.map_cons, Decoder.decodeItems, Decoder.decodeItems, hheld, ih]
    rfl

theorem decodeEntries (h : item.ReadsDeclared) (path : Path) (members : Members) :
    Decoder.decodeEntries item.decoder ⟨path, .permissive⟩ members =
      Decoder.decodeEntries item.decoder ⟨path, .strict⟩
        (members.map fun member => (member.1, item.declared member.2)) := by
  induction members with
  | nil => rfl
  | cons member rest ih =>
    have hheld : item.decoder.decode member.2 (Context.entry ⟨path, .permissive⟩ member.1) = _ :=
      h member.2 (path.step (.entry member.1))
    rw [List.map_cons, Decoder.decodeEntries, Decoder.decodeEntries, hheld, ih]
    rfl

theorem list (h : item.ReadsDeclared) : (Schema.list item).ReadsDeclared := by
  intro value path
  cases value with
  | array items => exact h.decodeItems path 0 items
  | _ => rfl

theorem map (h : item.ReadsDeclared) : (Schema.map item).ReadsDeclared := by
  intro value path
  cases value with
  | object members => exact h.decodeEntries path members
  | _ => rfl

theorem record {name : String} {fields : Fields} (hnodup : fields.keys.Nodup)
    (h : ∀ entry ∈ fields.readings, entry.2.2.ReadsDeclared) :
    (Schema.record name fields).ReadsDeclared := by
  intro value path
  cases value with
  | object members =>
    have hcollect : fields.collect members ⟨path, .permissive⟩ =
        fields.collect (Members.prune fields.declared members) ⟨path, .strict⟩ := by
      apply Fields.collect_congr
      intro (key, mode, type) hentry
      rw [FieldMode.reader_declared (h _ hentry), fields.get?_prune]
      cases Members.get? members key with
      | none => rfl
      | some held => rw [Option.map_some, Option.bind_some, Fields.declared_of_mem hnodup hentry]
    have hpermissive : Reading.closing fields.keys members ⟨path, .permissive⟩ = .ok () :=
      (Reading.closing_eq_ok_iff _ _ _).mpr fun h => by cases h
    have hstrict : Reading.closing fields.keys (Members.prune fields.declared members)
        ⟨path, .strict⟩ = .ok () :=
      (Reading.closing_eq_ok_iff _ _ _).mpr fun _ _ hkey => Fields.mem_keys_of_prune hkey
    change fields.read.decode (.object members) _ =
      fields.read.decode (.object (Members.prune fields.declared members)) _
    rw [Reading.decode_object fields.gives_read, Reading.decode_object fields.gives_read, hcollect,
      hpermissive, hstrict]
  | _ => rfl

end Schema.ReadsDeclared

theorem Variants.orderly_of_mem {type : Schema} : ∀ {variants : Variants},
    variants.orderly = true → type ∈ variants.types → type.orderly = true
  | .nil, _, h => by cases h
  | .cons _ _ _ own rest, hs, h => by
    rw [Variants.orderly, Bool.and_eq_true] at hs
    rcases List.mem_cons.mp h with rfl | h
    · exact hs.1
    · exact orderly_of_mem hs.2 h

theorem Fields.orderly_of_mem {entry : String × FieldMode × Schema} : ∀ {fields : Fields},
    fields.orderly = true → entry ∈ fields.readings → entry.2.2.orderly = true
  | .nil, _, h => by cases h
  | .cons _ type rest, hs, h => by
    simp only [orderly, Bool.and_eq_true] at hs
    rcases List.mem_cons.mp h with rfl | h
    · exact hs.1.2
    · exact orderly_of_mem hs.2 h

theorem Variants.unions_of_mem {type : Schema} : ∀ {variants : Variants},
    variants.unions = [] → type ∈ variants.types → type.unions = []
  | .nil, _, h => by cases h
  | .cons _ _ _ own rest, hs, h => by
    rw [unions, List.append_eq_nil_iff] at hs
    rcases List.mem_cons.mp h with rfl | h
    · exact hs.1
    · exact unions_of_mem hs.2 h

theorem Fields.unions_of_mem {entry : String × FieldMode × Schema} : ∀ {fields : Fields},
    fields.unions = [] → entry ∈ fields.readings → entry.2.2.unions = []
  | .nil, _, h => by cases h
  | .cons _ type rest, hs, h => by
    rw [unions, List.append_eq_nil_iff] at hs
    rcases List.mem_cons.mp h with rfl | h
    · exact hs.1
    · exact unions_of_mem hs.2 h

theorem Variants.bears_of_typeOf? {key : String} {mark : Option String} {type : Schema} :
    ∀ {variants : Variants}, variants.marked key = true → variants.typeOf? mark = some type →
      type.bears key mark = true
  | .nil, _, h => by cases h
  | .cons _ _ own _ rest, hs, h => by
    simp only [marked, Bool.and_eq_true] at hs
    rw [typeOf?] at h
    split at h
    · next heq =>
      cases h
      exact heq ▸ hs.1.2
    · exact bears_of_typeOf? hs.2 h

theorem Variants.select_congr {word : Option String} {value other : Json} {cx cx' : Context} :
    ∀ {variants : Variants} {decode : Json → Context → Except DecodeError variants.Val},
      variants.select word = some decode →
        (∀ type, variants.typeOf? word = some type →
          type.decode value cx = type.decode other cx') →
            decode value cx = decode other cx'
  | .nil, _, hselect, _ => by cases hselect
  | .cons _ _ mark type rest, decode, hselect, h => by
    rw [select] at hselect
    rw [typeOf?] at h
    split at hselect
    · next hmark =>
      cases hselect
      have hread := h type (if_pos hmark)
      exact congrArg (Except.map Sum.inl) hread
    · next hmark =>
      obtain ⟨inner, hinner, rfl⟩ := Option.map_eq_some_iff.mp hselect
      rw [if_neg hmark] at h
      exact congrArg (Except.map Sum.inr) (select_congr hinner h)

theorem Schema.markUnder_declared_marked {name key : String} {variants : Variants}
    (hs : variants.faithful = true) (hmarked : variants.marked key = true) (value : Json) :
    Decoder.markUnder key ((Schema.marked name key variants).declared value) =
      Decoder.markUnder key value := by
  rw [declared_marked]
  split
  · next type htype =>
    obtain ⟨mark, hmark, htype⟩ := Option.bind_eq_some_iff.mp htype
    have hfaithful := Variants.faithful_of_mem hs (Variants.mem_types_of_typeOf? htype)
    have hbears := Variants.bears_of_typeOf? hmarked htype
    rw [hmark, markUnder_declared hfaithful hbears hmark]
  · rfl

theorem Schema.ReadsDeclared.marked {name key : String} {variants : Variants}
    (hs : variants.faithful = true) (hmarked : variants.marked key = true)
    (h : ∀ type ∈ variants.types, type.ReadsDeclared) :
    (Schema.marked name key variants).ReadsDeclared := by
  intro value path
  change (Decoder.marked name key variants.select).decode value _ =
    (Decoder.marked name key variants.select).decode _ _
  rw [Decoder.marked_decode_eq, Decoder.marked_decode_eq, markUnder_declared_marked hs hmarked]
  cases hmark : Decoder.markUnder key value with
  | none => rfl
  | some mark =>
    rw [Option.bind_some]
    cases hselect : variants.select mark with
    | none => rfl
    | some decode =>
      apply Variants.select_congr hselect
      intro type htype
      have hdeclared : (Schema.marked name key variants).declared value = type.declared value := by
        rw [declared_marked, hmark, Option.bind_some, htype]
      rw [hdeclared]
      exact h type (Variants.mem_types_of_typeOf? htype) value path

theorem Schema.readsDeclared (s : Schema) : s.faithful = true → s.orderly = true →
    s.unions = [] → s.ReadsDeclared := by
  induction s using Schema.parts_induction with
  | list item ih => exact fun hs ho hu => (ih hs ho hu).list
  | map item ih => exact fun hs ho hu => (ih hs ho hu).map
  | nullable item ih =>
    intro hs ho hu
    rw [orderly, Bool.and_eq_true] at ho
    exact (ih hs ho.2 hu).nullable
  | record name fields ih =>
    intro hs ho hu
    exact .record (fields.keys_nodup hs) fun entry hentry =>
      ih entry hentry (Fields.faithful_of_mem hs hentry) (Fields.orderly_of_mem ho hentry)
        (Fields.unions_of_mem hu hentry)
  | union name variants ih => exact fun _ _ hu => by cases hu
  | marked name key variants ih =>
    intro hs ho hu
    rw [orderly, Bool.and_eq_true] at ho
    exact .marked hs ho.1 fun type htype =>
      ih type htype (Variants.faithful_of_mem hs htype) (Variants.orderly_of_mem ho.2 htype)
        (Variants.unions_of_mem hu htype)
  | _ => exact fun _ _ _ _ _ => rfl

/-- Keys that no record declares carry no information on permissive terms. A type of the protocol
without unions known by shape reads of a document what it reads strictly of the declared part, and
refuses it with the same error otherwise. So it cannot tell apart two documents that differ only in
undeclared keys. -/
theorem undeclared_keys_unseen {name : String} {s : Schema} (hs : (name, s) ∈ Protocol.types)
    (hunions : s.unions = []) :
    TypeRegistry.protocol.get? name = some (.ofSchema s) ∧
      (∀ value path,
        s.decode value ⟨path, .permissive⟩ = s.decode (s.declared value) ⟨path, .strict⟩) ∧
      ∀ value other path, s.declared value = s.declared other →
        s.decode value ⟨path, .permissive⟩ = s.decode other ⟨path, .permissive⟩ := by
  have hall : (name, WireType.plain s) ∈ WireType.all :=
    (WireType.mem_all_iff name _).mpr (.inl ⟨s, hs, rfl⟩)
  have hreads : s.ReadsDeclared :=
    s.readsDeclared (WireType.all_faithful _ hall) (WireType.all_orderly _ hall) hunions
  refine ⟨(TypeRegistry.get?_protocol_iff name _).mpr ⟨_, hall, rfl⟩, hreads, ?_⟩
  intro value other path h
  rw [hreads value path, hreads other path, h]

theorem undeclared_keys_unseen_range :
    let position (more : Members) : Json :=
      .object ([("character", .number (.integer 4)), ("line", .number (.integer 2))] ++ more)
    let range (more : Members) : Json :=
      .object ([("end", position more)] ++ more ++ [("start", position [])])
    let place : Protocol.position.Val := ((2 : UInt32), (4 : UInt32), ())
    ("Range", Protocol.range) ∈ Protocol.types ∧ Protocol.range.unions = [] ∧
      Protocol.range.declared (range [("offset", .null)]) = range [] ∧
      Protocol.range.decode (range [("offset", .null)]) (.root .permissive) =
        .ok (place, place, ()) ∧
      Protocol.range.decode (range [("offset", .null)]) (.root .strict) =
        .error (.unknownField (Path.payload.step (.field "end")) "offset") := by
  intro position range place
  have hs : ("Range", Protocol.range) ∈ Protocol.types := by simp [Protocol.types]
  have hdeclared : Protocol.range.declared (range [("offset", .null)]) = range [] := rfl
  have hseen := (undeclared_keys_unseen hs rfl).2.2 (range [("offset", .null)]) (range []) .payload
    hdeclared
  exact ⟨hs, rfl, hdeclared, hseen.trans rfl, rfl⟩

end LspWire
