import LspWire.Proofs.RecordUnion
import LspWire.Proofs.StrictMatch

/-! Keys that are still there when a value is written.
A record writes every key that it declares and its object has. A union writes the keys of the record
it was read of; where other records read the object too it has chosen among values that are written
alike, so it writes their keys as well. What no record that reads the object declares is lost. -/

namespace LspWire

namespace Json

theorem names_of_sameMembers : ∀ {a b : Members}, sameMembers a b = true → a.names = b.names
  | [], [], _ => rfl
  | [], _ :: _, h | _ :: _, [], h => by cases h
  | (m, _) :: _, (n, _) :: _, h => by
    rw [sameMembers, Bool.and_eq_true, Bool.and_eq_true, beq_iff_eq] at h
    exact congrArg₂ List.cons h.1.1 (names_of_sameMembers h.2)

theorem has_of_same {a b : Json} (h : a.same b = true) (key : String) : a.has key = b.has key := by
  cases a with
  | object left =>
    cases b with
    | object right =>
      change (Members.get? left key).isSome = (Members.get? right key).isSome
      rw [Bool.eq_iff_iff, ← Members.mem_names_iff, ← Members.mem_names_iff, names_of_sameMembers h]
    | _ => cases h
  | _ =>
    cases b with
    | object right => cases h
    | _ => rfl

theorem has_sorted_object {members : Members} (h : members.names.Nodup) (key : String) :
    (Json.object members).sorted.has key = (members.get? key).isSome := by
  obtain ⟨target, htarget, -, hget⟩ := sorted_object members h
  rw [htarget, has, get?, hget, Option.isSome_map]

end Json

theorem FieldMode.isSome_write_of_reader {α : Type} {d : Decoder α} {write : α → Json}
    {mode : FieldMode} {key : String} {value : Json} {cx : Context} {a : mode.Of α}
    (h : mode.reader d key (some value) cx = .ok a) : (mode.write write a).isSome = true := by
  cases mode with
  | required => rfl
  | optional =>
    obtain ⟨x, -, rfl⟩ := map_eq_ok_iff.mp h
    rfl
  | nullable => cases a <;> rfl
  | optionalNullable =>
    rcases FieldReader.optionalNullable_eq_ok_iff.mp h with
      ⟨hnone, -⟩ | ⟨-, rfl⟩ | ⟨_, _, -, -, -, rfl⟩
    · cases hnone
    · rfl
    · rfl

theorem Fields.isSome_write_of_collect : ∀ fields : Fields, fields.faithful = true →
    ∀ {members : Members} {cx : Context} {values : fields.Val},
      fields.collect members cx = .ok values → ∀ key ∈ fields.keys, key ∈ members.names →
        (Members.get? (fields.write values) key).isSome = true
  | .nil, _, _, _, _, _, _, hkey, _ => by cases hkey
  | .cons form type rest, hs, members, cx, (value, others), h, key, hkey, hmem => by
    obtain ⟨-, -, -, hrest⟩ := Fields.faithful_cons.mp hs
    obtain ⟨hvalue, hothers⟩ := Fields.collect_cons_eq_ok_iff.mp h
    rw [Fields.get?_write_cons hs]
    split
    · next heq =>
      rw [heq, Members.mem_names_iff] at hmem
      obtain ⟨held, hheld⟩ := Option.isSome_iff_exists.mp hmem
      rw [hheld] at hvalue
      exact FieldMode.isSome_write_of_reader hvalue
    · next hne =>
      have hkey : key ∈ rest.keys := (List.mem_cons.mp hkey).resolve_left hne
      exact Fields.isSome_write_of_collect rest hrest hothers key hkey hmem

/-- What a record brings to the type it is of: its documents, and that it is faithful. -/
structure RecordForm.Within {U : Type} (write : U → Json) (faithful : Bool) (r : RecordForm U) :
    Prop where
  write : ∀ values, write (r.wrap values) = .object (r.fields.write values)
  faithful : faithful = true → r.fields.faithful = true

mutual

theorem Schema.within : ∀ s : Schema, ∀ r ∈ s.records, r.Within s.write s.faithful
  | .record _ _, r, hr => by
    cases List.mem_singleton.mp hr
    exact ⟨fun _ => rfl, id⟩
  | .union _ variants, r, hr =>
    have h := Variants.within variants r hr
    ⟨h.write, h.faithful⟩
  | .boolean, _, hr | .string, _, hr | .integer, _, hr | .uinteger, _, hr | .decimal, _, hr
  | .any, _, hr | .object, _, hr | .null, _, hr | .noParams, _, hr | .numberOrString, _, hr
  | .literal _ _, _, hr | .integerEnum _, _, hr | .wordEnum _, _, hr | .openEnum _, _, hr
  | .list _, _, hr | .map _, _, hr | .nullable _, _, hr | .marked _ _ _, _, hr => by cases hr

theorem Variants.within : ∀ variants : Variants, ∀ r ∈ variants.records,
    r.Within variants.write variants.faithful
  | .nil, _, hr => by cases hr
  | .cons _ _ _ type rest, r, hr => by
    rcases List.mem_append.mp hr with hr | hr
    · obtain ⟨own, hown, rfl⟩ := List.mem_map.mp hr
      have h := Schema.within type own hown
      exact ⟨h.write, fun hs => h.faithful (Bool.and_eq_true_iff.mp hs).1⟩
    · obtain ⟨own, hown, rfl⟩ := List.mem_map.mp hr
      have h := Variants.within rest own hown
      exact ⟨h.write, fun hs => h.faithful (Bool.and_eq_true_iff.mp hs).2⟩

end

section

variable {union : String} {variants : Variants} {members : Members} {cx : Context}

theorem Variants.has_encode_wrap (hs : variants.faithful = true) {r : RecordForm variants.Val}
    (hr : r ∈ variants.records) (values : r.fields.Val) (key : String) :
    (variants.encode (r.wrap values)).has key =
      (Members.get? (r.fields.write values) key).isSome := by
  have hwithin := variants.within r hr
  rw [encode, hwithin.write,
    Json.has_sorted_object (r.fields.names_write_nodup (hwithin.faithful hs) values)]

theorem Variants.has_encode_of_read (hs : variants.faithful = true)
    {r : RecordForm variants.Val} (hr : r ∈ variants.records) {u : variants.Val}
    (h : r.alternative.decode (.object members) cx = .ok u) {key : String}
    (hkey : key ∈ r.fields.keys) (hmem : key ∈ members.names) :
    (variants.encode u).has key = true := by
  obtain ⟨values, hcollect, -, rfl⟩ := RecordForm.decode_eq_ok_iff.mp h
  rw [has_encode_wrap hs hr]
  exact r.fields.isSome_write_of_collect ((variants.within r hr).faithful hs) hcollect key hkey hmem

theorem Variants.not_has_encode_wrap (hs : variants.faithful = true) {r : RecordForm variants.Val}
    (hr : r ∈ variants.records) (values : r.fields.Val) {key : String}
    (hkey : key ∉ r.fields.keys) : (variants.encode (r.wrap values)).has key = false := by
  rw [has_encode_wrap hs hr,
    r.fields.get?_write_of_notMem ((variants.within r hr).faithful hs) values hkey]
  rfl

theorem Variants.has_encode_of_strict_read (hs : variants.faithful = true) {x : variants.Val}
    (h : ∃ r ∈ variants.records, r.alternative.decode (.object members) cx.strict = .ok x)
    {key : String} (hkey : key ∈ members.names) : (variants.encode x).has key = true := by
  obtain ⟨r, hr, hread⟩ := h
  obtain ⟨_, -, hnames, -⟩ := RecordForm.decode_eq_ok_iff.mp hread
  exact has_encode_of_read hs hr hread (hnames rfl key hkey) hkey

theorem Schema.has_encode_of_record (hsimple : variants.simple = true)
    (hs : variants.faithful = true) {x : variants.Val}
    (hx : (Schema.union union variants).decoder.decode (.object members) cx = .ok x)
    {r : RecordForm variants.Val} (hr : r ∈ variants.records) {u : variants.Val}
    (hu : r.alternative.decode (.object members) cx = .ok u) {key : String}
    (hkey : key ∈ r.fields.keys) (hmem : key ∈ members.names) :
    (variants.encode x).has key = true := by
  by_cases hstrict : Union.reads (variants.records.map RecordForm.alternative) (.object members)
      cx.strict = []
  -- Without a strict match both values are candidates, and candidates are written alike.
  · rw [Schema.decode_object hsimple, Union.decode_of_no_strict_reads hstrict] at hx
    have hread : (r.name, u) ∈
        Union.reads (variants.records.map RecordForm.alternative) (.object members) cx :=
      Union.mem_reads_iff.mpr ⟨_, List.mem_map_of_mem hr, rfl, hu⟩
    have hsame : (variants.encode x).same (variants.encode u) = true :=
      Union.same_of_choose hx hread
    rw [Json.has_of_same hsame]
    exact Variants.has_encode_of_read hs hr hu hkey hmem
  · exact Variants.has_encode_of_strict_read hs
      (Schema.exists_record_of_strict_reads hsimple hx hstrict) hmem

theorem Schema.lost_key (hsimple : variants.simple = true) (hs : variants.faithful = true)
    {path : Path} {options : DecodeOptions} {x : variants.Val}
    (hx : (Schema.union union variants).decoder.decode (.object members) ⟨path, options⟩ = .ok x)
    {key : String} (hlost : (variants.encode x).has key = false) (hmem : key ∈ members.names) :
    options = .permissive ∧ ∀ r ∈ variants.records, key ∈ r.fields.keys →
      ∀ held, r.fields.read.decode (.object members) ⟨path, .permissive⟩ ≠ .ok held := by
  obtain ⟨reject⟩ := options
  cases reject with
  | true =>
    have hstrict : (Schema.union union variants).decoder.decode (.object members)
        (Context.strict ⟨path, .strict⟩) = .ok x := hx
    have hhas := Variants.has_encode_of_strict_read hs
      (Schema.exists_record_of_strict hsimple hstrict) hmem
    rw [hlost] at hhas
    cases hhas
  | false =>
    refine ⟨rfl, fun r hr hkey held hheld => ?_⟩
    have hhas := Schema.has_encode_of_record hsimple hs hx hr (RecordForm.decode_of_read hheld) hkey
      hmem
    rw [hlost] at hhas
    cases hhas

end

namespace Protocol

theorem simple_of_shapeUnion {union : String} {variants : Variants}
    (h : Schema.union union variants ∈ shapeUnions) : variants.simple = true := by
  have hall : ∀ s ∈ shapeUnions, s.checkUnion (fun _ variants => variants.simple) = true := by
    decide
  exact hall _ h

theorem faithful_of_shapeUnion {union : String} {variants : Variants}
    (h : Schema.union union variants ∈ shapeUnions) : variants.faithful = true := by
  have hall : ∀ s ∈ shapeUnions, s.checkUnion (fun _ variants => variants.faithful) = true := by
    decide
  exact hall _ h

end Protocol

/-- A union known by shape keeps those keys of an object that are declared by a record which reads
the object on the same terms, and on strict terms it keeps all. So a change with a range is read as
one of the whole document, or an edit with an annotation as a plain one, only on permissive terms,
and only where the record that has the key does not read the object. -/
theorem declared_key_written :
    (∀ union variants, Schema.union union variants ∈ Protocol.shapeUnions →
      ∀ (members : Members) path options x,
        (Schema.union union variants).decoder.decode (.object members) ⟨path, options⟩ = .ok x →
          (∀ r ∈ variants.records, ∀ held,
            r.fields.read.decode (.object members) ⟨path, options⟩ = .ok held →
              ∀ key ∈ r.fields.keys, key ∈ members.names →
                ((Schema.union union variants).encode x).has key = true) ∧
          (options = .strict → ∀ key ∈ members.names,
            ((Schema.union union variants).encode x).has key = true)) ∧
    (∀ members path options whole, "range" ∈ Members.names members →
      Protocol.textDocumentContentChangeEvent.decoder.decode (.object members) ⟨path, options⟩ =
          .ok (Sum.inr (Sum.inl whole)) →
        options = .permissive ∧ ∀ part, Protocol.textDocumentContentChangePartial.decoder.decode
          (.object members) ⟨path, .permissive⟩ ≠ .ok part) ∧
    ∀ members path options edit, "annotationId" ∈ Members.names members →
      Protocol.textDocumentEditItem.decoder.decode (.object members) ⟨path, options⟩ =
          .ok (Sum.inl edit) →
        options = .permissive ∧ ∀ annotated, Protocol.annotatedTextEdit.decoder.decode
          (.object members) ⟨path, .permissive⟩ ≠ .ok annotated := by
  refine ⟨fun union variants hunion members path options x hx => ⟨?_, ?_⟩, ?_, ?_⟩
  · intro r hr held hheld key hkey hmem
    exact Schema.has_encode_of_record (Protocol.simple_of_shapeUnion hunion)
      (Protocol.faithful_of_shapeUnion hunion) hx hr (RecordForm.decode_of_read hheld) hkey hmem
  · rintro rfl key hmem
    have hstrict : (Schema.union union variants).decoder.decode (.object members)
        (Context.strict ⟨path, .strict⟩) = .ok x := hx
    exact Variants.has_encode_of_strict_read (Protocol.faithful_of_shapeUnion hunion)
      (Schema.exists_record_of_strict (Protocol.simple_of_shapeUnion hunion) hstrict) hmem
  · intro members path options whole hmem hx
    have hunion : Protocol.textDocumentContentChangeEvent ∈ Protocol.shapeUnions :=
      List.mem_cons_self
    have hlost : (Protocol.textDocumentContentChangeEvent.encode (Sum.inr (Sum.inl whole))).has
        "range" = false :=
      Variants.not_has_encode_wrap (Protocol.faithful_of_shapeUnion hunion)
        (List.mem_cons_of_mem _ List.mem_cons_self) whole (by decide)
    obtain ⟨hoptions, hnone⟩ := Schema.lost_key (Protocol.simple_of_shapeUnion hunion)
      (Protocol.faithful_of_shapeUnion hunion) hx hlost hmem
    exact ⟨hoptions, hnone _ List.mem_cons_self List.mem_cons_self⟩
  · intro members path options edit hmem hx
    have hunion : Protocol.textDocumentEditItem ∈ Protocol.shapeUnions :=
      List.mem_cons_of_mem _ List.mem_cons_self
    have hlost : (Protocol.textDocumentEditItem.encode (Sum.inl edit)).has "annotationId" = false :=
      Variants.not_has_encode_wrap (Protocol.faithful_of_shapeUnion hunion) List.mem_cons_self edit
        (by decide)
    obtain ⟨hoptions, hnone⟩ := Schema.lost_key (Protocol.simple_of_shapeUnion hunion)
      (Protocol.faithful_of_shapeUnion hunion) hx hlost hmem
    refine ⟨hoptions, hnone _ (List.mem_cons_of_mem _ List.mem_cons_self) ?_⟩
    exact List.mem_cons_of_mem _ (List.mem_cons_of_mem _ List.mem_cons_self)

theorem declared_key_written_whole :
    Protocol.textDocumentContentChangeEvent.decoder.decode
        (.object [("extra", .null), ("text", .string "five")]) ⟨.payload, .permissive⟩ =
      .ok (Sum.inr (Sum.inl ("five", ()))) ∧
    (Protocol.textDocumentContentChangeEvent.encode (Sum.inr (Sum.inl ("five", ())))).has "text" =
      true ∧
    Protocol.textDocumentContentChangeEvent.decoder.decode
        (.object [("range", .number (.integer 5)), ("text", .string "five")])
        ⟨.payload, .permissive⟩ = .ok (Sum.inr (Sum.inl ("five", ()))) ∧
    ∀ part, Protocol.textDocumentContentChangePartial.decoder.decode
      (.object [("range", .number (.integer 5)), ("text", .string "five")])
      ⟨.payload, .permissive⟩ ≠ .ok part := by
  have hunion : Protocol.textDocumentContentChangeEvent ∈ Protocol.shapeUnions :=
    List.mem_cons_self
  have hextra : Protocol.textDocumentContentChangeEvent.decoder.decode
      (.object [("extra", .null), ("text", .string "five")]) ⟨.payload, .permissive⟩ =
        .ok (Sum.inr (Sum.inl ("five", ()))) := by
    rfl
  have hrange : Protocol.textDocumentContentChangeEvent.decoder.decode
      (.object [("range", .number (.integer 5)), ("text", .string "five")])
      ⟨.payload, .permissive⟩ = .ok (Sum.inr (Sum.inl ("five", ()))) := by
    rfl
  have htext := (declared_key_written.1 _ _ hunion _ _ _ _ hextra).1 _
    (List.mem_cons_of_mem _ List.mem_cons_self) ("five", ()) rfl "text" List.mem_cons_self
    (by decide)
  have hpart := declared_key_written.2.1 _ _ _ _ (by decide) hrange
  exact ⟨hextra, htext, hrange, hpart.2⟩

/-- Not every key is written that some record declares: a change whose range is not one loses it. -/
theorem malformed_range_lost :
    ¬∀ union variants, Schema.union union variants ∈ Protocol.shapeUnions →
      ∀ (members : Members) path options x,
        (Schema.union union variants).decoder.decode (.object members) ⟨path, options⟩ = .ok x →
          ∀ r ∈ variants.records, ∀ key ∈ r.fields.keys, key ∈ members.names →
            ((Schema.union union variants).encode x).has key = true := by
  intro h
  have hread : Protocol.textDocumentContentChangeEvent.decoder.decode
      (.object [("range", .number (.integer 5)), ("text", .string "five")])
      ⟨.payload, .permissive⟩ = .ok (Sum.inr (Sum.inl ("five", ()))) := by
    rfl
  have hrange := h _ _ (List.mem_cons_self : Protocol.textDocumentContentChangeEvent ∈ _) _ _ _ _
    hread _ List.mem_cons_self "range" List.mem_cons_self List.mem_cons_self
  cases hrange

end LspWire
