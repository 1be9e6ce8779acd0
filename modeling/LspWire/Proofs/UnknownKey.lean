import LspWire.Proofs.DeclaredKey
import LspWire.Proofs.TypePart

/-! Keys of no record, on permissive terms.
A key that no record of a union declares keeps all of them from matching strictly, and keeps none
from matching otherwise. So the value stays what it was, except where a second record reads the
object as well once its other keys may be ignored: then the two are told apart no longer. -/

namespace LspWire

theorem Fields.collect_insert (fields : Fields) {key : String} (h : key ∉ fields.keys)
    (extra : Json) (members : Members) (cx : Context) :
    fields.collect (members.insert key extra) cx = fields.collect members cx := by
  apply Fields.collect_congr
  intro entry hentry
  have hkey : entry.1 ∈ fields.keys := mem_keys_iff.mpr ⟨entry.2.1, entry.2.2, hentry⟩
  rw [Members.get?_insert, if_neg fun heq : key = entry.1 => h (heq ▸ hkey)]

namespace RecordForm

variable {U : Type} {r other : RecordForm U} {members : Members} {cx : Context} {path : Path}
  {key : String}

theorem decode_insert (hkey : key ∉ r.fields.keys) (extra : Json) :
    r.alternative.decode (.object (members.insert key extra)) ⟨path, .permissive⟩ =
      r.alternative.decode (.object members) ⟨path, .permissive⟩ := by
  change (r.fields.read.decode _ _).map r.wrap = (r.fields.read.decode _ _).map r.wrap
  rw [Reading.decode_object r.fields.gives_read, Reading.decode_object r.fields.gives_read,
    r.fields.collect_insert hkey]
  rfl

theorem decode_insert_strict (hkey : key ∉ r.fields.keys) (extra : Json) (u : U) :
    r.alternative.decode (.object (members.insert key extra)) cx.strict ≠ .ok u := fun h => by
  obtain ⟨_, -, hnames, -⟩ := decode_eq_ok_iff.mp h
  have hmem : key ∈ Members.names (members.insert key extra) := by
    rw [Members.mem_names_iff, Members.get?_insert, if_pos rfl]
    rfl
  exact hkey (hnames rfl key hmem)

end RecordForm

theorem Schema.decode_insert {union : String} {variants : Variants} (h : variants.simple = true)
    {key : String} (hkey : ∀ r ∈ variants.records, key ∉ r.fields.keys) (extra : Json)
    (members : Members) (path : Path) :
    (Schema.union union variants).decoder.decode (.object (members.insert key extra))
        ⟨path, .permissive⟩ =
      Union.choose union (fun x => some (variants.encode x)) path
        (Union.reads (variants.records.map RecordForm.alternative) (.object members)
          ⟨path, .permissive⟩) := by
  have hstrict : Union.reads (variants.records.map RecordForm.alternative)
      (.object (members.insert key extra)) (Context.strict ⟨path, .permissive⟩) = [] := by
    refine List.eq_nil_iff_forall_not_mem.mpr fun found hfound => ?_
    obtain ⟨r, hr, hread⟩ := Variants.exists_record_of_reads hfound
    exact RecordForm.decode_insert_strict (hkey r hr) extra _ hread
  have hsame : Union.reads (variants.records.map RecordForm.alternative)
      (.object (members.insert key extra)) ⟨path, .permissive⟩ =
        Union.reads (variants.records.map RecordForm.alternative) (.object members)
          ⟨path, .permissive⟩ := by
    refine List.filterMap_congr fun a ha => ?_
    obtain ⟨r, hr, rfl⟩ := List.mem_map.mp ha
    rw [RecordForm.decode_insert (hkey r hr)]
  rw [decode_object h, Union.decode_of_no_strict_reads hstrict, hsame]

section

variable {U : Type} {r other : RecordForm U} {members : Members} {path : Path} {u : U}

theorem RecordForm.exists_key_of_exceeds (h : r.fields.exceeds other.fields = true)
    {cx : Context} (hread : r.alternative.decode (.object members) cx = .ok u) :
    ∃ key ∈ members.names, key ∉ other.fields.keys := by
  obtain ⟨values, hcollect, -, -⟩ := decode_eq_ok_iff.mp hread
  refine Fields.exists_key_of_exceeds h fun key hkey => ?_
  rw [Members.mem_names_iff]
  exact r.fields.get?_of_collect hcollect key hkey

theorem RecordForm.decode_ne_of_exceeds (h : other.fields.exceeds r.fields = true)
    (hread : r.alternative.decode (.object members) ⟨path, .strict⟩ = .ok u) (cx : Context)
    (v : U) : other.alternative.decode (.object members) cx ≠ .ok v := fun hother => by
  obtain ⟨key, hmem, hkey⟩ := exists_key_of_exceeds h hother
  obtain ⟨_, -, hnames, -⟩ := decode_eq_ok_iff.mp hread
  exact hkey (hnames rfl key hmem)

theorem RecordForm.exists_decode_of_subset (h : other.fields.readings ⊆ r.fields.readings)
    (hread : r.alternative.decode (.object members) ⟨path, .permissive⟩ = .ok u) :
    ∃ v, other.alternative.decode (.object members) ⟨path, .permissive⟩ = .ok v := by
  obtain ⟨values, hcollect, -, -⟩ := decode_eq_ok_iff.mp hread
  have hall := Fields.exists_collect_eq_ok_iff.mp ⟨values, hcollect⟩
  obtain ⟨held, hheld⟩ := Fields.exists_collect_eq_ok_iff.mpr fun entry hentry =>
    hall entry (h hentry)
  exact ⟨_, decode_eq_ok_iff.mpr ⟨held, hheld, fun hreject => (by cases hreject), rfl⟩⟩

theorem RecordForm.reads_of_alone {records : List (RecordForm U)}
    (hnames : (records.map RecordForm.name).Nodup) (hr : r ∈ records)
    (hothers : ∀ other ∈ records, other.name ≠ r.name → other.fields.exceeds r.fields = true)
    (hread : r.alternative.decode (.object members) ⟨path, .strict⟩ = .ok u) :
    Union.reads (records.map alternative) (.object members) ⟨path, .permissive⟩ =
      [(r.name, u)] := by
  -- Along the list, `r` is either the first, and no other follows that reads, or further on.
  induction records with
  | nil => cases hr
  | cons first rest ih =>
    rw [List.map_cons, List.nodup_cons] at hnames
    rw [List.forall_mem_cons] at hothers
    rw [List.map_cons, Union.reads_cons]
    rcases List.mem_cons.mp hr with rfl | hr
    · have hrest :
          Union.reads (rest.map alternative) (.object members) ⟨path, .permissive⟩ = [] := by
        refine List.eq_nil_iff_forall_not_mem.mpr fun found hfound => ?_
        obtain ⟨a, ha, -, hfound⟩ := Union.mem_reads_iff.mp hfound
        obtain ⟨other, hother, rfl⟩ := List.mem_map.mp ha
        have hname : other.name ≠ r.name := fun heq =>
          hnames.1 (heq ▸ List.mem_map_of_mem hother)
        exact decode_ne_of_exceeds (hothers.2 other hother hname) hread _ _ hfound
      have hrelaxed : r.alternative.decode (.object members) ⟨path, .permissive⟩ = .ok u :=
        decode_of_strict hread
      rw [hrest, hrelaxed]
      rfl
    · have hname : first.name ≠ r.name := fun heq => hnames.1 (heq ▸ List.mem_map_of_mem hr)
      have hfirst := decode_ne_of_exceeds (hothers.1 hname) hread ⟨path, .permissive⟩
      cases hdecode : first.alternative.decode (.object members) ⟨path, .permissive⟩ with
      | error e => exact ih hnames.2 hr hothers.2
      | ok v => exact absurd hdecode (hfirst v)

end

namespace Union

variable {U : Type} {union : String} {alternatives : List (Alternative U)} {value : Json}
  {cx : Context}

theorem names_reads (h : ∀ a ∈ alternatives, ∃ u, a.decode value cx = .ok u) :
    (reads alternatives value cx).map (·.1) = alternatives.map (·.name) := by
  induction alternatives with
  | nil => rfl
  | cons a rest ih =>
    rw [List.forall_mem_cons] at h
    obtain ⟨⟨u, hu⟩, hrest⟩ := h
    rw [reads_cons, hu, List.map_append, ih hrest]
    rfl

theorem choose_eq_ambiguous {write : U → Json} {path : Path} {found : Matches U}
    {a b : String × U} (ha : a ∈ found) (hb : b ∈ found) {key : String}
    (hakey : (write a.2).has key = true) (hbkey : (write b.2).has key = false) :
    choose union (fun u => some (write u)) path found =
      .error (.unionAmbiguous path union (found.map (·.1))) := by
  cases hchoose : choose union (fun u => some (write u)) path found with
  | ok u =>
    have hakey' := Json.has_of_same (same_of_choose hchoose ha) key
    have hbkey' := Json.has_of_same (same_of_choose hchoose hb) key
    rw [hakey', hakey] at hbkey'
    rw [hbkey] at hbkey'
    cases hbkey'
  | error e =>
    -- There is a match, and one alone would have been chosen.
    match found with
    | [] => cases ha
    | [(_, _)] => cases hchoose
    | (_, _) :: _ :: _ =>
      rw [choose] at hchoose
      · split at hchoose <;> cases hchoose
        rfl
      · exact List.cons_ne_nil _ _

end Union

section

variable {union : String} {variants : Variants} {members : Members} {path : Path}
  {x : variants.Val} {key : String}

theorem Schema.decode_insert_of_alone (hsimple : variants.simple = true)
    (hkey : ∀ r ∈ variants.records, key ∉ r.fields.keys) (extra : Json)
    (hnames : (variants.records.map RecordForm.name).Nodup) {r : RecordForm variants.Val}
    (hr : r ∈ variants.records)
    (hothers : ∀ other ∈ variants.records, other.name ≠ r.name →
      other.fields.exceeds r.fields = true)
    (hread : r.alternative.decode (.object members) ⟨path, .strict⟩ = .ok x) :
    (Schema.union union variants).decoder.decode (.object (members.insert key extra))
      ⟨path, .permissive⟩ = .ok x := by
  rw [decode_insert hsimple hkey, RecordForm.reads_of_alone hnames hr hothers hread]
  rfl

theorem Schema.decode_insert_of_subset (hsimple : variants.simple = true)
    (hs : variants.faithful = true) (hkey : ∀ r ∈ variants.records, key ∉ r.fields.keys)
    (extra : Json) {wide narrow : RecordForm variants.Val} (hwide : wide ∈ variants.records)
    (hnarrow : narrow ∈ variants.records)
    (hsubset : ∀ r ∈ variants.records, r.fields.readings ⊆ wide.fields.readings)
    (hexceeds : wide.fields.exceeds narrow.fields = true)
    (hread : wide.alternative.decode (.object members) ⟨path, .strict⟩ = .ok x) :
    (Schema.union union variants).decoder.decode (.object (members.insert key extra))
        ⟨path, .permissive⟩ =
      .error (.unionAmbiguous path union (variants.records.map RecordForm.name)) := by
  have hrelaxed : wide.alternative.decode (.object members) ⟨path, .permissive⟩ = .ok x :=
    RecordForm.decode_of_strict hread
  have hall : ∀ a ∈ variants.records.map RecordForm.alternative,
      ∃ u, a.decode (.object members) ⟨path, .permissive⟩ = .ok u := fun a ha => by
    obtain ⟨r, hr, rfl⟩ := List.mem_map.mp ha
    exact RecordForm.exists_decode_of_subset (hsubset r hr) hrelaxed
  obtain ⟨y, hy⟩ := RecordForm.exists_decode_of_subset (hsubset narrow hnarrow) hrelaxed
  obtain ⟨own, hmem, hown⟩ := RecordForm.exists_key_of_exceeds hexceeds hread
  have hx : (variants.encode x).has own = true := by
    obtain ⟨_, -, hnames, -⟩ := RecordForm.decode_eq_ok_iff.mp hread
    exact Variants.has_encode_of_read hs hwide hread (hnames rfl own hmem) hmem
  have hy' : (variants.encode y).has own = false := by
    obtain ⟨values, -, -, rfl⟩ := RecordForm.decode_eq_ok_iff.mp hy
    exact Variants.not_has_encode_wrap hs hnarrow values hown
  have hxread : (wide.name, x) ∈ Union.reads (variants.records.map RecordForm.alternative)
      (.object members) ⟨path, .permissive⟩ :=
    Union.mem_reads_iff.mpr ⟨_, List.mem_map_of_mem hwide, rfl, hrelaxed⟩
  have hyread : (narrow.name, y) ∈ Union.reads (variants.records.map RecordForm.alternative)
      (.object members) ⟨path, .permissive⟩ :=
    Union.mem_reads_iff.mpr ⟨_, List.mem_map_of_mem hnarrow, rfl, hy⟩
  rw [decode_insert hsimple hkey, Union.choose_eq_ambiguous hxread hyread hx hy',
    Union.names_reads hall, List.map_map]
  rfl

end

def Variants.nameOf : (variants : Variants) → variants.Val → String
  | .nil => Empty.elim
  | .cons name _ _ _ rest => Sum.elim (fun _ => name) rest.nameOf

theorem Variants.nameOf_wrap : ∀ variants : Variants, ∀ r ∈ variants.records, ∀ values,
    variants.nameOf (r.wrap values) = r.name
  | .nil, _, hr, _ => by cases hr
  | .cons _ _ _ type rest, r, hr, values => by
    rcases List.mem_append.mp hr with hr | hr
    · obtain ⟨own, -, rfl⟩ := List.mem_map.mp hr
      rfl
    · obtain ⟨own, hown, rfl⟩ := List.mem_map.mp hr
      exact nameOf_wrap rest own hown values

namespace Protocol

/-- The alternatives, by union and name, whose record has all fields of another one. -/
def overlapping : List (String × String) :=
  [("TextDocumentContentChangeEvent", "TextDocumentContentChangePartial"),
    ("TextEdit | AnnotatedTextEdit", "AnnotatedTextEdit")]

variable {union : String} {variants : Variants}

theorem names_nodup_of_shapeUnion (h : Schema.union union variants ∈ shapeUnions) :
    (variants.records.map RecordForm.name).Nodup := by
  have hall : ∀ s ∈ shapeUnions, s.checkUnion
      (fun _ variants => decide (variants.records.map RecordForm.name).Nodup) = true := by
    decide
  exact of_decide_eq_true (hall _ h)

theorem exceeds_of_shapeUnion (h : Schema.union union variants ∈ shapeUnions)
    {r : RecordForm variants.Val} (hr : r ∈ variants.records)
    (hnot : (union, r.name) ∉ overlapping) :
    ∀ other ∈ variants.records, other.name ≠ r.name → other.fields.exceeds r.fields = true := by
  have hall : ∀ s ∈ shapeUnions, s.checkUnion (fun union variants =>
      variants.records.all fun r => variants.records.all fun other =>
        overlapping.contains (union, r.name) || other.name == r.name ||
          other.fields.exceeds r.fields) = true := by
    decide
  intro other hother hname
  have hpair := List.all_eq_true.mp (List.all_eq_true.mp (hall _ h) r hr) other hother
  simpa [hnot, hname] using hpair

theorem subset_of_overlapping (h : Schema.union union variants ∈ shapeUnions)
    {r : RecordForm variants.Val} (hr : r ∈ variants.records)
    (hoverlap : (union, r.name) ∈ overlapping) :
    (∀ other ∈ variants.records, other.fields.readings ⊆ r.fields.readings) ∧
      ∃ narrow ∈ variants.records, r.fields.exceeds narrow.fields = true := by
  simp only [shapeUnions, List.mem_cons, List.not_mem_nil, or_false] at h
  rcases h with h | h | h | h | h | h <;> cases h
  -- A change of part of a document has the text, which is all that one of the whole has.
  · rcases List.mem_cons.mp hr with rfl | hr
    · refine ⟨List.forall_mem_cons.mpr ⟨List.Subset.refl _, List.forall_mem_cons.mpr ⟨?_, ?_⟩⟩, _,
        List.mem_cons_of_mem _ List.mem_cons_self, by decide⟩
      · exact List.cons_subset.mpr ⟨List.mem_cons_of_mem _ (List.mem_cons_of_mem _
          List.mem_cons_self), List.nil_subset _⟩
      · exact fun _ h => (by cases h)
    · cases List.mem_singleton.mp hr
      exact absurd hoverlap (by decide)
  -- An annotated edit has the range and the text of a plain one.
  · rcases List.mem_cons.mp hr with rfl | hr
    · exact absurd hoverlap (by decide)
    · cases List.mem_singleton.mp hr
      refine ⟨List.forall_mem_cons.mpr ⟨?_, List.forall_mem_cons.mpr ⟨List.Subset.refl _, ?_⟩⟩, _,
        List.mem_cons_self, by decide⟩
      · exact List.cons_subset.mpr ⟨List.mem_cons_self, List.cons_subset.mpr
          ⟨List.mem_cons_of_mem _ List.mem_cons_self, List.nil_subset _⟩⟩
      · exact fun _ h => (by cases h)
  all_goals simp [overlapping] at hoverlap

end Protocol

/-- On permissive terms another key that no record of the union declares changes nothing of what is
read strictly, except that a value of an overlapping alternative is no longer told from others. -/
theorem permissive_decode_of_unknown_key {union : String} {variants : Variants}
    (hunion : Schema.union union variants ∈ Protocol.shapeUnions) {members : Members} {path : Path}
    {x : variants.Val}
    (hx : (Schema.union union variants).decoder.decode (.object members) ⟨path, .strict⟩ = .ok x)
    {key : String} (hkey : ∀ r ∈ variants.records, key ∉ r.fields.keys) (extra : Json) :
    (Schema.union union variants).decoder.decode (.object (members.insert key extra))
        ⟨path, .permissive⟩ =
      if (union, variants.nameOf x) ∈ Protocol.overlapping then
        .error (.unionAmbiguous path union (variants.records.map RecordForm.name))
      else .ok x := by
  have hsimple := Protocol.simple_of_shapeUnion hunion
  have hstrict : (Schema.union union variants).decoder.decode (.object members)
      (Context.strict ⟨path, .strict⟩) = .ok x := hx
  obtain ⟨r, hr, hread⟩ := Schema.exists_record_of_strict hsimple hstrict
  have hname : variants.nameOf x = r.name := by
    obtain ⟨values, -, -, rfl⟩ := RecordForm.decode_eq_ok_iff.mp hread
    exact variants.nameOf_wrap r hr values
  rw [hname]
  split
  · next hoverlap =>
    obtain ⟨hsubset, narrow, hnarrow, hexceeds⟩ :=
      Protocol.subset_of_overlapping hunion hr hoverlap
    exact Schema.decode_insert_of_subset hsimple (Protocol.faithful_of_shapeUnion hunion) hkey extra
      hr hnarrow hsubset hexceeds hread
  · next hnot =>
    exact Schema.decode_insert_of_alone hsimple hkey extra
      (Protocol.names_nodup_of_shapeUnion hunion) hr
      (Protocol.exceeds_of_shapeUnion hunion hr hnot) hread

theorem permissive_decode_of_unknown_key_annotated :
    Protocol.markedString.decoder.decode
        (.object [("extra", .null), ("language", .string "rust"), ("value", .string "fn x()")])
        ⟨.payload, .permissive⟩ =
      .ok (Sum.inr (Sum.inl ("rust", "fn x()", ()))) ∧
    Protocol.textDocumentEditItem.decoder.decode
        (.object (Members.insert "extra" .null
          [("annotationId", .string "rename-1"), ("newText", .string "five"),
            ("range", .object
              [("end", .object [("character", .number (.integer 4)),
                ("line", .number (.integer 0))]),
              ("start", .object [("character", .number (.integer 0)),
                ("line", .number (.integer 0))])])])) ⟨.payload, .permissive⟩ =
      .error (.unionAmbiguous .payload "TextEdit | AnnotatedTextEdit"
        ["TextEdit", "AnnotatedTextEdit"]) := by
  have hblock : Protocol.markedString.decoder.decode
      (.object [("language", .string "rust"), ("value", .string "fn x()")]) ⟨.payload, .strict⟩ =
        .ok (Sum.inr (Sum.inl ("rust", "fn x()", ()))) := by
    rfl
  have hedit : Protocol.textDocumentEditItem.decoder.decode
      (.object [("annotationId", .string "rename-1"), ("newText", .string "five"),
        ("range", .object
          [("end", .object [("character", .number (.integer 4)),
            ("line", .number (.integer 0))]),
          ("start", .object [("character", .number (.integer 0)),
            ("line", .number (.integer 0))])])]) ⟨.payload, .strict⟩ =
        .ok (Sum.inr (Sum.inl ((((0 : UInt32), (0 : UInt32), ()), ((0 : UInt32), (4 : UInt32), ()),
          ()), "five", "rename-1", ()))) := by
    rfl
  have hmarked : Protocol.markedString ∈ Protocol.shapeUnions :=
    List.mem_cons_of_mem _ (List.mem_cons_of_mem _ List.mem_cons_self)
  have hitem : Protocol.textDocumentEditItem ∈ Protocol.shapeUnions :=
    List.mem_cons_of_mem _ List.mem_cons_self
  have hstays := permissive_decode_of_unknown_key hmarked hblock
    (by decide : ∀ r ∈ _, "extra" ∉ _) .null
  have hlost := permissive_decode_of_unknown_key hitem hedit
    (by decide : ∀ r ∈ _, "extra" ∉ _) .null
  exact ⟨hstays.trans (if_neg (by decide)), hlost.trans (if_pos (by decide))⟩

/-- Not every union ignores the key `extra`: a change of part of a document is refused for it. -/
theorem unknown_key_not_ignored :
    ¬∀ union variants, Schema.union union variants ∈ Protocol.shapeUnions →
      ∀ (members : Members) path x,
        (Schema.union union variants).decoder.decode (.object members) ⟨path, .strict⟩ = .ok x →
          (Schema.union union variants).decoder.decode (.object (members.insert "extra" .null))
            ⟨path, .permissive⟩ = .ok x := by
  intro h
  have hread : Protocol.textDocumentContentChangeEvent.decoder.decode
      (.object [("range", .object
          [("end", .object [("character", .number (.integer 4)), ("line", .number (.integer 0))]),
          ("start", .object [("character", .number (.integer 0)),
            ("line", .number (.integer 0))])]), ("text", .string "five")]) ⟨.payload, .strict⟩ =
        .ok (Sum.inl ((((0 : UInt32), (0 : UInt32), ()), ((0 : UInt32), (4 : UInt32), ()), ()),
          none, "five", ())) := by
    rfl
  have hunion : Protocol.textDocumentContentChangeEvent ∈ Protocol.shapeUnions :=
    List.mem_cons_self
  cases h _ _ hunion _ _ _ hread

end LspWire
