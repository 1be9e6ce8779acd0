import LspWire.Proofs.DeclaredPart
import LspWire.Protocol.Edit

/-! Marks against shapes.
Where unknown keys are refused, a type that bears a mark only reads documents with that mark. So of
variants with different marks at most one reads a document, the one that its mark selects, and a
union that goes by the marker reads what it would read by shape. -/

namespace LspWire

theorem Fields.get?_of_holdsWord {key word : String} {fields : Fields} {members : Members}
    {cx : Context} {values : fields.Val} (h : fields.holdsWord key word = true)
    (hvalues : fields.collect members cx = .ok values) :
    members.get? key = some (.string word) := by
  obtain ⟨name, hname⟩ := exists_reading_of_holdsWord h
  obtain ⟨_, hread⟩ := exists_collect_eq_ok_iff.mp ⟨values, hvalues⟩ _ hname
  obtain ⟨held, hheld, hread⟩ := FieldReader.required_eq_ok_of_present.mp hread
  rw [hheld, (Decoder.literal_decode_eq_ok_iff word held _).mp hread]

theorem Schema.markUnder_of_decode {s : Schema} {key : String} {mark : Option String}
    (hbears : s.bears key mark = true) {value : Json} {cx : Context} {x : s.Val}
    (hcx : cx.options.rejectUnknownFields = true) (h : s.decoder.decode value cx = .ok x) :
    Decoder.markUnder key value = some mark := by
  rw [Decoder.markUnder_eq_some_iff]
  cases s with
  | record name fields =>
    obtain ⟨members, rfl, hcollect, hnames⟩ := fields.gives_read.decode_eq_ok_iff.mp h
    cases mark with
    | some word => exact Fields.get?_of_holdsWord hbears hcollect
    | none =>
      have hkey : key ∉ fields.keys := by simpa [bears] using hbears
      exact (members.get?_eq_none_iff key).mpr fun hmem => hkey (hnames hcx key hmem)
  | _ => cases hbears

section

variable {name key label own : String} {mark : Option String} {type : Schema} {rest : Variants}
  {value : Json} {cx : Context}

theorem Variants.marked_cons_of_mark (h : Decoder.markUnder key value = some mark) :
    (Decoder.marked name key (Variants.cons label own mark type rest).select).decode value cx =
      (type.decoder.decode value cx).map Sum.inl := by
  rw [Decoder.marked_decode_eq, h, Option.bind_some, Variants.select, if_pos rfl]
  rfl

theorem Variants.marked_cons_of_ne (h : Decoder.markUnder key value ≠ some mark) :
    ((Decoder.marked name key (Variants.cons label own mark type rest).select).decode value
        cx).toOption =
      ((Decoder.marked name key rest.select).decode value cx).toOption.map Sum.inr := by
  rw [Decoder.marked_decode_eq, Decoder.marked_decode_eq]
  cases hmark : Decoder.markUnder key value with
  | none => rfl
  | some word =>
    have hne : mark ≠ word := fun heq => h (hmark.trans (congrArg some heq.symm))
    rw [Option.bind_some, Option.bind_some, Variants.select, if_neg hne]
    cases rest.select word with
    | none => rfl
    | some decode =>
      change ((decode value cx).map Sum.inr).toOption = (decode value cx).toOption.map Sum.inr
      cases decode value cx <;> rfl

theorem Variants.reads_cons :
    ((Union.reads (Variants.cons label own mark type rest).alternatives value cx).map (·.2) :
        List (type.Val ⊕ rest.Val)) =
      ((type.decoder.decode value cx).toOption.map Sum.inl).toList ++
        ((Union.reads rest.alternatives value cx).map (·.2)).map Sum.inr := by
  change (Union.reads ((⟨label, fun value cx => (type.decoder.decode value cx).map Sum.inl⟩ :
    Alternative (type.Val ⊕ rest.Val)) :: rest.alternatives.map (Alternative.map Sum.inr)) value
      cx).map (·.2) = _
  rw [Union.reads_cons, Union.reads_map, List.map_append, List.map_map, List.map_map]
  refine congrArg₂ (· ++ ·) ?_ rfl
  dsimp only
  cases type.decoder.decode value cx <;> rfl

theorem Variants.marked_of_notMem {variants : Variants} (h : mark ∉ variants.marks)
    (hmark : Decoder.markUnder key value = some mark) :
    ((Decoder.marked name key variants.select).decode value cx).toOption = none := by
  have hselect : variants.select mark = none := by
    rw [Option.eq_none_iff_forall_ne_some]
    exact fun _ hselect => h (variants.mem_marks_of_select mark hselect)
  rw [Decoder.marked_decode_eq, hmark, Option.bind_some, hselect]
  rfl

end

theorem Variants.reads_of_marked (name : String) {key : String} (value : Json) {cx : Context}
    (hcx : cx.options.rejectUnknownFields = true) :
    ∀ {variants : Variants}, variants.marked key = true →
      (Union.reads variants.alternatives value cx).map (·.2) =
        ((Decoder.marked name key variants.select).decode value cx).toOption.toList
  | .nil, _ => by
    rw [Decoder.marked_decode_eq]
    cases Decoder.markUnder key value <;> rfl
  | .cons label own mark type rest, h => by
    simp only [marked, Bool.and_eq_true, Bool.not_eq_true', List.contains_eq_mem,
      decide_eq_false_iff_not] at h
    obtain ⟨⟨hnew, hbears⟩, hrest⟩ := h
    have ih := reads_of_marked name value hcx hrest
    refine reads_cons.trans ?_
    by_cases hmark : Decoder.markUnder key value = some mark
    · rw [ih, marked_of_notMem hnew hmark, marked_cons_of_mark hmark]
      cases type.decoder.decode value cx <;> rfl
    · have hnone : (type.decoder.decode value cx).toOption = none := by
        rw [Option.eq_none_iff_forall_ne_some]
        intro x hx
        exact hmark (Schema.markUnder_of_decode hbears hcx (toOption_eq_some_iff.mp hx))
      rw [ih, hnone, marked_cons_of_ne hmark]
      cases ((Decoder.marked name key rest.select).decode value cx).toOption <;> rfl

theorem Union.decode_of_reject {U : Type} {union : String} {encode : U → Option Json}
    {alternatives : List (Alternative U)} {value : Json} {cx : Context}
    (hcx : cx.options.rejectUnknownFields = true) :
    decode union encode alternatives value cx =
      choose union encode cx.path (reads alternatives value cx) := by
  have hstrict := Context.strict_of_reject hcx
  by_cases h : reads alternatives value cx = []
  · rw [decode_of_no_strict_reads (hstrict.symm ▸ h)]
  · rw [decode_of_strict_reads (hstrict.symm ▸ h), hstrict]

theorem Schema.marked_decode_iff_union (name union : String) {key : String} {variants : Variants}
    (h : variants.marked key = true) {value : Json} {cx : Context}
    (hcx : cx.options.rejectUnknownFields = true) {x : variants.Val} :
    (Schema.marked name key variants).decoder.decode value cx = .ok x ↔
      (Schema.union union variants).decoder.decode value cx = .ok x := by
  have hreads := Variants.reads_of_marked name value hcx h
  change (Decoder.marked name key variants.select).decode value cx = .ok x ↔
    Union.decode union (fun x => some (variants.encode x)) variants.alternatives value cx = .ok x
  rw [Union.decode_of_reject hcx]
  cases hmarked : (Decoder.marked name key variants.select).decode value cx with
  | error e =>
    rw [hmarked] at hreads
    rw [List.map_eq_nil_iff.mp hreads]
    exact iff_of_false (fun h => by cases h) (fun h => by cases h)
  | ok y =>
    rw [hmarked] at hreads
    obtain ⟨found, hfound, rfl⟩ := List.map_eq_singleton_iff.mp hreads
    rw [hfound]
    rfl

namespace Protocol

/-- A change to documents known by the shapes of its alternatives alone. -/
def documentChangeByShape : Schema := Schema.unionOf "DocumentChange"
  [Schema.shape "TextDocumentEdit" "TextDocumentEdit" textDocumentEdit,
   Schema.shape "CreateFile" "CreateFile" createFile,
   Schema.shape "RenameFile" "RenameFile" renameFile,
   Schema.shape "DeleteFile" "DeleteFile" deleteFile]

/-- On strict terms a change to documents is read by its `kind` just as by its shape, whatever the
document holds under that key. -/
theorem documentChange_decode_iff_byShape (value : Json) (path : Path) (x : documentChange.Val) :
    documentChange.decoder.decode value ⟨path, .strict⟩ = .ok x ↔
      documentChangeByShape.decoder.decode value ⟨path, .strict⟩ = .ok x :=
  Schema.marked_decode_iff_union "DocumentChange" "DocumentChange" (by decide) rfl

/-- On permissive terms they part: a file to create may look like edits as well. -/
example :
    let value : Json := .object [("edits", .array []), ("kind", .string "create"),
      ("textDocument", .object [("uri", .string "a"), ("version", .null)]), ("uri", .string "a")]
    (documentChange.decoder.decode value (.root .permissive)).isOk = true ∧
      documentChangeByShape.decoder.decode value (.root .permissive) =
        .error (.unionAmbiguous .payload "DocumentChange" ["TextDocumentEdit", "CreateFile"]) :=
  ⟨rfl, rfl⟩

end Protocol

end LspWire
