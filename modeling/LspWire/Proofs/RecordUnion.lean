import LspWire.Proofs.ApartTypes
import LspWire.Proofs.FaithfulType
import LspWire.Proofs.RelaxedReading

/-! Unions that are read from objects.
An object is a value of a union through one of the records that stand among the alternatives, or
among those of a union inside. Where no alternative has more than one record behind it, an object is
matched against these records just as it is against the alternatives. -/

namespace LspWire

namespace Union

variable {U V : Type} {union : String} {encode : U → Option Json}
  {alternatives others : List (Alternative U)} {value : Json} {cx : Context}

theorem toOption_decode_singleton {a : Alternative U}
    (ha : ∀ u, a.decode value cx.strict = .ok u → a.decode value cx = .ok u) :
    (decode union encode [a] value cx).toOption = (a.decode value cx).toOption := by
  cases hstrict : a.decode value cx.strict with
  | ok u =>
    have hreads : reads [a] value cx.strict = [(a.name, u)] := by
      rw [reads_cons, hstrict]
      rfl
    rw [decode_of_strict_reads (by rw [hreads]; exact List.cons_ne_nil _ _), hreads, ha u hstrict]
    rfl
  | error e =>
    have hreads : reads [a] value cx.strict = [] := by
      rw [reads_cons, hstrict]
      rfl
    rw [decode_of_no_strict_reads hreads, reads_cons]
    cases a.decode value cx <;> rfl

theorem same_of_choose {write : U → Json} {path : Path} {found : Matches U} {u : U}
    (h : choose union (fun u => some (write u)) path found = .ok u) {other : String × U}
    (hmem : other ∈ found) : (write u).same (write other.2) = true := by
  obtain ⟨name, rest, rfl, hagree⟩ := choose_eq_ok_iff.mp h
  cases rest with
  | nil =>
    cases List.mem_singleton.mp hmem
    exact Json.same_self _
  | cons second rest =>
    have hall := hagree (List.cons_ne_nil _ _)
    have hother : some (write other.2) ∈
        ((name, u) :: second :: rest).map fun entry => some (write entry.2) :=
      List.mem_map_of_mem hmem
    rw [List.map_cons] at hall hother
    exact List.all_eq_true.mp hall _ hother

end Union

/-- A record of which a union is read: the name of its alternative, and the value that the union
makes of its fields. -/
structure RecordForm (U : Type) where
  name : String
  fields : Fields
  wrap : fields.Val → U

namespace RecordForm

variable {U V : Type}

def alternative (r : RecordForm U) : Alternative U :=
  ⟨r.name, fun value cx => (r.fields.read.decode value cx).map r.wrap⟩

def under (name : String) (f : U → V) (r : RecordForm U) : RecordForm V :=
  ⟨name, r.fields, fun values => f (r.wrap values)⟩

def map (f : U → V) (r : RecordForm U) : RecordForm V := r.under r.name f

theorem decode_eq_ok_iff {r : RecordForm U} {members : Members} {cx : Context} {u : U} :
    r.alternative.decode (.object members) cx = .ok u ↔
      ∃ values, r.fields.collect members cx = .ok values ∧
        (cx.options.rejectUnknownFields = true → ∀ name ∈ members.names, name ∈ r.fields.keys) ∧
          r.wrap values = u := by
  change (r.fields.read.decode (.object members) cx).map r.wrap = .ok u ↔ _
  rw [map_eq_ok_iff]
  refine exists_congr fun values => ?_
  rw [r.fields.gives_read.decode_eq_ok_iff]
  constructor
  · rintro ⟨⟨_, heq, hcollect, hnames⟩, hu⟩
    cases heq
    exact ⟨hcollect, hnames, hu⟩
  · rintro ⟨hcollect, hnames, hu⟩
    exact ⟨⟨members, rfl, hcollect, hnames⟩, hu⟩

theorem decode_of_read {r : RecordForm U} {value : Json} {cx : Context} {values : r.fields.Val}
    (h : r.fields.read.decode value cx = .ok values) :
    r.alternative.decode value cx = .ok (r.wrap values) :=
  map_eq_ok_iff.mpr ⟨values, h, rfl⟩

theorem decode_of_strict {r : RecordForm U} {value : Json} {cx : Context} {u : U}
    (h : r.alternative.decode value cx.strict = .ok u) : r.alternative.decode value cx = .ok u := by
  obtain ⟨values, hvalues, hu⟩ := map_eq_ok_iff.mp h
  have hrelaxed := (Schema.record r.name r.fields).relaxes_decoder.decode value cx values hvalues
  exact map_eq_ok_iff.mpr ⟨values, hrelaxed, hu⟩

theorem alternative_map (f : U → V) (r : RecordForm U) :
    (r.map f).alternative = r.alternative.map f := by
  refine congrArg (Alternative.mk r.name) (funext fun value => funext fun cx => ?_)
  change (r.fields.read.decode value cx).map _ = ((r.fields.read.decode value cx).map r.wrap).map f
  cases r.fields.read.decode value cx <;> rfl

theorem reads_under (name : String) (f : U → V) (r : RecordForm U) (value : Json) (cx : Context) :
    Union.reads [(r.under name f).alternative] value cx =
      ((r.alternative.decode value cx).toOption.map fun u => (name, f u)).toList := by
  have hunder : (r.under name f).alternative.decode value cx =
      (r.alternative.decode value cx).map f := by
    change (r.fields.read.decode value cx).map _ =
      ((r.fields.read.decode value cx).map r.wrap).map f
    cases r.fields.read.decode value cx <;> rfl
  rw [Union.reads_cons, hunder]
  cases r.alternative.decode value cx <;> rfl

end RecordForm

mutual

/-- The records of which the values of a type are read. -/
def Schema.records : (s : Schema) → List (RecordForm s.Val)
  | .record name fields => [⟨name, fields, id⟩]
  | .union _ variants => variants.records
  | _ => []

def Variants.records : (variants : Variants) → List (RecordForm variants.Val)
  | .nil => []
  | .cons name _ _ type rest =>
    type.records.map (.under name Sum.inl) ++
      rest.records.map (.map Sum.inr)

end

mutual

/-- A record, a union with at most one record inside, or no type of objects at all. -/
def Schema.simple : Schema → Bool
  | .record _ _ => true
  | .union _ variants => variants.simple && decide (variants.records.length ≤ 1)
  | s => !s.kinds.contains "object"

def Variants.simple : Variants → Bool
  | .nil => true
  | .cons _ _ _ type rest => type.simple && rest.simple

end

section

variable {V : Type} {name : String} {members : Members} {cx : Context}

theorem Schema.reads_of_no_object {s : Schema} {f : s.Val → V} (hrecords : s.records = [])
    (h : (!s.kinds.contains "object") = true) :
    Union.reads ((s.records.map (.under name f)).map RecordForm.alternative) (.object members) cx =
      ((s.decoder.decode (.object members) cx).toOption.map fun x => (name, f x)).toList := by
  rw [hrecords]
  cases hdecode : s.decoder.decode (.object members) cx with
  | error e => rfl
  | ok x =>
    have hkind : "object" ∈ s.kinds := s.kind_mem_of_decode hdecode
    simp [hkind] at h

theorem Variants.reads_union {own : String} {variants : Variants} {f : variants.Val → V}
    (hreads : ∀ cx, Union.reads variants.alternatives (.object members) cx =
      Union.reads (variants.records.map RecordForm.alternative) (.object members) cx)
    (hlength : variants.records.length ≤ 1) :
    Union.reads ((variants.records.map (.under name f)).map RecordForm.alternative)
        (.object members) cx =
      ((Union.decode own (fun x => some (variants.encode x)) variants.alternatives
        (.object members) cx).toOption.map fun x => (name, f x)).toList := by
  rw [Union.decode_congr (hreads cx.strict) (hreads cx)]
  match hrecords : variants.records with
  | [] => rfl
  | [r] =>
    have hsingle : (Union.decode own (fun x => some (variants.encode x))
        [r.alternative] (.object members) cx).toOption =
          (r.alternative.decode (.object members) cx).toOption :=
      Union.toOption_decode_singleton fun _ => RecordForm.decode_of_strict
    rw [List.map_singleton, List.map_singleton, List.map_singleton, hsingle]
    exact RecordForm.reads_under name f r (.object members) cx
  | _ :: _ :: _ =>
    rw [hrecords] at hlength
    simp at hlength

end

mutual

theorem Schema.reads_records : ∀ s : Schema, s.simple = true → ∀ {V : Type} (name : String)
    (f : s.Val → V) (members : Members) (cx : Context),
      Union.reads ((s.records.map (.under name f)).map RecordForm.alternative)
          (.object members) cx =
        ((s.decoder.decode (.object members) cx).toOption.map fun x => (name, f x)).toList
  | .record own fields, _, _, name, f, members, cx => by
    have hid : (⟨own, fields, id⟩ : RecordForm fields.Val).alternative.decode (.object members) cx =
        (Schema.record own fields).decoder.decode (.object members) cx := by
      change (fields.read.decode (.object members) cx).map id =
        fields.read.decode (.object members) cx
      cases fields.read.decode (.object members) cx <;> rfl
    rw [← hid]
    exact RecordForm.reads_under name f ⟨own, fields, id⟩ (.object members) cx
  | .union own variants, h, _, _, _, members, _ => by
    rw [Schema.simple, Bool.and_eq_true, decide_eq_true_iff] at h
    exact Variants.reads_union (Variants.reads_records variants h.1 members) h.2
  | .boolean, h, _, _, _, _, _ | .string, h, _, _, _, _, _ | .integer, h, _, _, _, _, _
  | .uinteger, h, _, _, _, _, _ | .decimal, h, _, _, _, _, _ | .any, h, _, _, _, _, _
  | .object, h, _, _, _, _, _ | .null, h, _, _, _, _, _ | .noParams, h, _, _, _, _, _
  | .numberOrString, h, _, _, _, _, _ | .literal _ _, h, _, _, _, _, _
  | .integerEnum _, h, _, _, _, _, _ | .wordEnum _, h, _, _, _, _, _
  | .openEnum _, h, _, _, _, _, _ | .list _, h, _, _, _, _, _ | .map _, h, _, _, _, _, _
  | .nullable _, h, _, _, _, _, _ | .marked _ _ _, h, _, _, _, _, _ =>
    Schema.reads_of_no_object rfl h

theorem Variants.reads_records : ∀ variants : Variants, variants.simple = true →
    ∀ (members : Members) (cx : Context),
      Union.reads variants.alternatives (.object members) cx =
        Union.reads (variants.records.map RecordForm.alternative) (.object members) cx
  | .nil, _, _, _ => rfl
  | .cons name _ _ type rest, h, members, cx => by
    rw [Variants.simple, Bool.and_eq_true] at h
    have htype := Schema.reads_records type h.1 name (Sum.inl : type.Val → type.Val ⊕ rest.Val)
      members cx
    have hrest : Union.reads ((rest.records.map
        (.map (Sum.inr : rest.Val → type.Val ⊕ rest.Val))).map RecordForm.alternative)
          (.object members) cx =
        Union.reads (rest.alternatives.map (Alternative.map Sum.inr)) (.object members) cx := by
      rw [Union.reads_map, Variants.reads_records rest h.2 members cx, ← Union.reads_map,
        List.map_map, List.map_map]
      refine congrArg (Union.reads · _ _) (List.map_congr_left fun r _ => ?_)
      exact RecordForm.alternative_map _ r
    -- Over the sum itself: the values of the union are only seen to be one when unfolded.
    change Union.reads ((⟨name, fun value cx => (type.decoder.decode value cx).map Sum.inl⟩ :
        Alternative (type.Val ⊕ rest.Val)) :: rest.alternatives.map (Alternative.map Sum.inr)) _ _ =
      Union.reads ((type.records.map (RecordForm.under name Sum.inl) ++
        rest.records.map (RecordForm.map Sum.inr)).map RecordForm.alternative) _ _
    rw [Union.reads_cons, List.map_append, Union.reads_append, htype, hrest]
    refine congrArg (· ++ _) ?_
    change (((type.decoder.decode (.object members) cx).map Sum.inl).toOption.map _).toList = _
    cases type.decoder.decode (.object members) cx <;> rfl

end

theorem Schema.decode_object {union : String} {variants : Variants} (h : variants.simple = true)
    (members : Members) (cx : Context) :
    (Schema.union union variants).decoder.decode (.object members) cx =
      Union.decode union (fun x => some (variants.encode x))
        (variants.records.map RecordForm.alternative) (.object members) cx := by
  change Union.decode union (fun x => some (variants.encode x)) variants.alternatives _ _ = _
  exact Union.decode_congr (variants.reads_records h members cx.strict)
    (variants.reads_records h members cx)

/-- The record of a marked string stands among those of the contents of a hover. -/
example : Protocol.hoverContents.records.map (fun r => (r.name, r.fields.keys)) =
    [("MarkupContent", ["kind", "value"]), ("MarkedString", ["language", "value"])] := by
  decide

section

variable {union : String} {variants : Variants} {members : Members} {cx : Context}
  {x : variants.Val}

theorem Variants.exists_record_of_reads {found : String × variants.Val}
    (h : found ∈ Union.reads (variants.records.map RecordForm.alternative) (.object members) cx) :
    ∃ r ∈ variants.records, r.alternative.decode (.object members) cx = .ok found.2 := by
  obtain ⟨a, ha, -, hread⟩ := Union.mem_reads_iff.mp h
  obtain ⟨r, hr, rfl⟩ := List.mem_map.mp ha
  exact ⟨r, hr, hread⟩

theorem Schema.exists_record_of_strict_reads (h : variants.simple = true)
    (hx : (Schema.union union variants).decoder.decode (.object members) cx = .ok x)
    (hreads : Union.reads (variants.records.map RecordForm.alternative) (.object members) cx.strict
      ≠ []) :
    ∃ r ∈ variants.records, r.alternative.decode (.object members) cx.strict = .ok x := by
  rw [decode_object h, Union.decode_of_strict_reads hreads] at hx
  obtain ⟨name, rest, hfound, -⟩ := Union.choose_eq_ok_iff.mp hx
  have hmem : (name, x) ∈
      Union.reads (variants.records.map RecordForm.alternative) (.object members) cx.strict := by
    rw [hfound]
    exact List.mem_cons_self
  exact Variants.exists_record_of_reads hmem

theorem Schema.exists_record_of_strict (h : variants.simple = true)
    (hx : (Schema.union union variants).decoder.decode (.object members) cx.strict = .ok x) :
    ∃ r ∈ variants.records, r.alternative.decode (.object members) cx.strict = .ok x := by
  rw [decode_object h] at hx
  obtain ⟨a, ha, hread⟩ := Union.exists_alternative_of_decode hx
  obtain ⟨r, hr, rfl⟩ := List.mem_map.mp ha
  exact ⟨r, hr, hread.elim id id⟩

end

end LspWire
