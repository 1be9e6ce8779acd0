import LspWire.Proofs.BaseReading
import LspWire.Proofs.PartsInOrder
import LspWire.Proofs.RegisteredType
import LspWire.Proofs.TypedMessage
import LspWire.Proofs.UnionChoice

/-! Reading on relaxed terms.
What is read where unknown keys are refused is read, as the same value, where they are ignored. A
union goes by its strict matches as soon as there is one, and those do not depend on the terms of
its caller; everything else hands its terms on to its parts. -/

namespace LspWire

variable {α : Type}

/-- Whatever is read strictly at a place is read there on any terms, as the same value. -/
structure Decoder.Relaxes (d : Decoder α) : Prop where
  decode : ∀ value cx a, d.decode value cx.strict = .ok a → d.decode value cx = .ok a
  absent : ∀ name cx a, d.absent name cx.strict = .ok a → d.absent name cx = .ok a

def FieldReader.Relaxes (read : FieldReader α) : Prop :=
  ∀ held cx a, read held cx.strict = .ok a → read held cx = .ok a

namespace Decoder

variable {d : Decoder α}

theorem relaxes_present {decode : Json → Context → Except DecodeError α}
    (h : ∀ value cx a, decode value cx.strict = .ok a → decode value cx = .ok a) :
    (present decode).Relaxes :=
  ⟨h, fun _ _ _ hmissing => hmissing⟩

theorem Relaxes.list (hd : d.Relaxes) : d.list.Relaxes := relaxes_present fun value cx xs h => by
  cases value with
  | array items =>
    obtain ⟨hlength, hitems⟩ := decodeItems_eq_ok_iff.mp h
    refine decodeItems_eq_ok_iff.mpr ⟨hlength, fun i item hitem => ?_⟩
    obtain ⟨x, hx, hread⟩ := hitems i item hitem
    exact ⟨x, hx, hd.decode item _ x hread⟩
  | _ => cases h

theorem Relaxes.map (hd : d.Relaxes) : d.map.Relaxes := relaxes_present fun value cx entries h => by
  cases value with
  | object members =>
    obtain ⟨hlength, hmembers⟩ := decodeEntries_eq_ok_iff.mp h
    refine decodeEntries_eq_ok_iff.mpr ⟨hlength, fun i key held hheld => ?_⟩
    obtain ⟨x, hx, hread⟩ := hmembers i key held hheld
    exact ⟨x, hx, hd.decode held _ x hread⟩
  | _ => cases h

theorem Relaxes.nullable (hd : d.Relaxes) : d.nullable.Relaxes :=
  relaxes_present fun value cx x h => by
    cases value with
    | null => exact h
    | _ =>
      obtain ⟨y, hy, hx⟩ := map_eq_ok_iff.mp h
      exact map_eq_ok_iff.mpr ⟨y, hd.decode _ cx y hy, hx⟩

theorem relaxes_marked {name key : String}
    {select : Option String → Option (Json → Context → Except DecodeError α)}
    (hselect : ∀ word decode, select word = some decode → ∀ value cx a,
      decode value cx.strict = .ok a → decode value cx = .ok a) :
    (marked name key select).Relaxes :=
  relaxes_present fun value cx a h => by
    change (marked name key select).decode value cx.strict = .ok a at h
    change (marked name key select).decode value cx = .ok a
    rw [marked_decode_eq] at h ⊢
    split at h
    · next decode hdecode =>
      obtain ⟨word, -, hword⟩ := Option.bind_eq_some_iff.mp hdecode
      exact hselect word decode hword value cx a h
    · cases h

end Decoder

namespace FieldReader

variable {d : Decoder α}

theorem relaxes_required (hd : d.Relaxes) (name : String) :
    FieldReader.Relaxes (required d name) := fun held cx a h => by
  cases held with
  | none => exact hd.absent name cx a h
  | some value => exact hd.decode value (cx.field name) a h

theorem relaxes_nullable (hd : d.Relaxes) (name : String) :
    FieldReader.Relaxes (nullable d name) := fun held cx x h => by
  rw [nullable_eq_ok_iff] at h ⊢
  refine h.imp_right ?_
  rintro ⟨value, a, hheld, hne, ha, hx⟩
  exact ⟨value, a, hheld, hne, hd.decode value (cx.field name) a ha, hx⟩

theorem relaxes_optionalNullable (hd : d.Relaxes) (name : String) :
    FieldReader.Relaxes (optionalNullable d name) := fun held cx x h => by
  rw [optionalNullable_eq_ok_iff] at h ⊢
  refine h.imp_right (Or.imp_right ?_)
  rintro ⟨value, a, hheld, hne, ha, hx⟩
  exact ⟨value, a, hheld, hne, hd.decode value (cx.field name) a ha, hx⟩

theorem relaxes_reader (hd : d.Relaxes) (key : String) (mode : FieldMode) :
    FieldReader.Relaxes (mode.reader d key) := fun held cx x h => by
  cases mode with
  | required => exact relaxes_required hd key held cx x h
  | optional =>
    cases held with
    | none => exact h
    | some value =>
      obtain ⟨y, hy, hx⟩ := map_eq_ok_iff.mp h
      exact map_eq_ok_iff.mpr ⟨y, hd.decode value (cx.field key) y hy, hx⟩
  | nullable => exact relaxes_nullable hd key held cx x h
  | optionalNullable => exact relaxes_optionalNullable hd key held cx x h

end FieldReader

namespace Union

variable {U : Type} {union : String} {encode : U → Option Json}
  {alternatives : List (Alternative U)} {value : Json} {cx : Context}

theorem candidates_strict :
    candidates alternatives value cx.strict = alternatives.filterMap (strictMatch? value cx) := by
  have hlenient : alternatives.filterMap (lenientMatch? value cx.strict) = [] :=
    List.filterMap_eq_nil_iff.mpr fun _ _ => rfl
  unfold candidates
  split
  · next hnil => exact hlenient.trans hnil.symm
  · rfl

theorem decode_of_strict {u : U} (h : decode union encode alternatives value cx.strict = .ok u) :
    decode union encode alternatives value cx = .ok u := by
  unfold decode at h ⊢
  rw [candidates_strict] at h
  have hsome : alternatives.filterMap (strictMatch? value cx) ≠ [] := fun hnil => by
    rw [hnil] at h
    cases h
  rw [candidates_of_strictMatch hsome]
  exact h

end Union

mutual

theorem Schema.relaxes_decoder : ∀ s : Schema, s.decoder.Relaxes
  | .boolean | .string | .integer | .uinteger | .decimal | .any | .object | .null | .noParams
  | .numberOrString | .literal _ _ | .integerEnum _ | .wordEnum _ | .openEnum _ =>
    ⟨fun _ _ _ h => h, fun _ _ _ h => h⟩
  | .list item => (Schema.relaxes_decoder item).list
  | .map item => (Schema.relaxes_decoder item).map
  | .nullable item => (Schema.relaxes_decoder item).nullable
  | .record _ fields => Decoder.relaxes_present fun value cx values h => by
    obtain ⟨members, rfl, hcollect, hnames⟩ := fields.gives_read.decode_eq_ok_iff.mp h
    exact fields.gives_read.decode_eq_ok_iff.mpr
      ⟨members, rfl, Fields.collect_of_strict fields hcollect, fun _ => hnames rfl⟩
  | .union _ _ => Decoder.relaxes_present fun _ _ _ h => Union.decode_of_strict h
  | .marked _ _ variants => Decoder.relaxes_marked fun word _ hselect _ _ _ h =>
    Variants.decode_of_strict variants word hselect h

theorem Fields.collect_of_strict : ∀ (fields : Fields) {members : Members} {cx : Context}
    {values : fields.Val}, fields.collect members cx.strict = .ok values →
      fields.collect members cx = .ok values
  | .nil, _, _, _, h => h
  | .cons form type rest, members, cx, (value, others), h => by
    obtain ⟨hvalue, hothers⟩ := Fields.collect_cons_eq_ok_iff.mp h
    have hfield := FieldReader.relaxes_reader (Schema.relaxes_decoder type) form.key form.mode
      (members.get? form.key) cx value hvalue
    have hrest := Fields.collect_of_strict rest hothers
    exact Fields.collect_cons_eq_ok_iff.mpr ⟨hfield, hrest⟩

theorem Variants.decode_of_strict : ∀ (variants : Variants) (word : Option String)
    {decode : Json → Context → Except DecodeError variants.Val},
      variants.select word = some decode → ∀ {value : Json} {cx : Context} {x : variants.Val},
        decode value cx.strict = .ok x → decode value cx = .ok x
  | .nil, _, _, hselect, _, _, _, _ => by cases hselect
  | .cons _ _ mark type rest, word, decode, hselect, value, cx, x, h => by
    rw [Variants.select] at hselect
    split at hselect
    · cases hselect
      obtain ⟨y, hy, hx⟩ := map_eq_ok_iff.mp h
      exact map_eq_ok_iff.mpr ⟨y, (Schema.relaxes_decoder type).decode value cx y hy, hx⟩
    · obtain ⟨inner, hinner, rfl⟩ := Option.map_eq_some_iff.mp hselect
      obtain ⟨y, hy, hx⟩ := map_eq_ok_iff.mp h
      exact map_eq_ok_iff.mpr ⟨y, Variants.decode_of_strict rest word hinner hy, hx⟩

end

section

variable {members : Members} {cx : Context}

theorem RequestFrame.relaxed {id : NumberOrString} {method : String}
    (frame : RequestFrame members cx.strict id method) : RequestFrame members cx id method where
  version := frame.version
  id := FieldReader.relaxes_required Schema.numberOrString.relaxes_decoder "id" _ cx id frame.id
  method := frame.method
  names _ := frame.names rfl

theorem NotificationFrame.relaxed {method : String}
    (frame : NotificationFrame members cx.strict method) : NotificationFrame members cx method where
  version := frame.version
  id := frame.id
  method := frame.method
  names _ := frame.names rfl

theorem ResponseFrame.relaxed {id : Nullable NumberOrString} {key : OutcomeKey}
    (frame : ResponseFrame members cx.strict id key) : ResponseFrame members cx id key where
  version := frame.version
  id := FieldReader.relaxes_nullable Schema.numberOrString.relaxes_decoder "id" _ cx id frame.id
  method := frame.method
  outcome := frame.outcome
  names _ := frame.names rfl

theorem ResponseOutcome.collect_of_strict {d : Decoder α} (hd : d.Relaxes) {key : OutcomeKey}
    {outcome : ResponseOutcome α} (h : collect d members cx.strict key = .ok outcome) :
    collect d members cx key = .ok outcome := by
  cases key with
  | result =>
    obtain ⟨a, ha, houtcome⟩ := map_eq_ok_iff.mp h
    exact map_eq_ok_iff.mpr ⟨a, FieldReader.relaxes_required hd "result" _ cx a ha, houtcome⟩
  | error =>
    obtain ⟨e, he, houtcome⟩ := map_eq_ok_iff.mp h
    have herror := FieldReader.relaxes_required responseError.relaxes_decoder "error" _ cx e he
    exact map_eq_ok_iff.mpr ⟨e, herror, houtcome⟩

end

namespace WireType

theorem decode_of_strict {t : WireType} {value : Json} {cx : Context} {x : t.Value}
    (h : t.codec.decode value cx.strict = .ok x) : t.codec.decode value cx = .ok x := by
  cases t with
  | plain s => exact s.relaxes_decoder.decode value cx x h
  | message =>
    cases x with
    | request raw =>
      obtain ⟨members, rfl, frame, hparams⟩ := Message.decode_eq_request_iff.mp h
      exact Message.decode_eq_request_iff.mpr ⟨members, rfl, frame.relaxed, hparams⟩
    | notification raw =>
      obtain ⟨members, rfl, frame, hparams⟩ := Message.decode_eq_notification_iff.mp h
      exact Message.decode_eq_notification_iff.mpr ⟨members, rfl, frame.relaxed, hparams⟩
    | response raw =>
      obtain ⟨members, rfl, key, frame, houtcome⟩ := Message.decode_eq_response_iff.mp h
      have hraw := ResponseOutcome.collect_of_strict Schema.any.relaxes_decoder houtcome
      exact Message.decode_eq_response_iff.mpr ⟨members, rfl, key, frame.relaxed, hraw⟩
  | request r =>
    obtain ⟨members, rfl, frame, hparams⟩ := RequestMessage.decode_eq_ok_iff.mp h
    have hread := FieldReader.relaxes_required r.params.relaxes_decoder "params" _ cx _ hparams
    exact RequestMessage.decode_eq_ok_iff.mpr ⟨members, rfl, frame.relaxed, hread⟩
  | response r =>
    obtain ⟨members, rfl, key, frame, houtcome⟩ := ResponseMessage.decode_eq_ok_iff.mp h
    have hread := ResponseOutcome.collect_of_strict r.result.relaxes_decoder houtcome
    exact ResponseMessage.decode_eq_ok_iff.mpr ⟨members, rfl, key, frame.relaxed, hread⟩
  | notification n =>
    obtain ⟨members, rfl, frame, hparams⟩ := NotificationMessage.decode_eq_ok_iff.mp h
    have hread := FieldReader.relaxes_required n.params.relaxes_decoder "params" _ cx _ hparams
    exact NotificationMessage.decode_eq_ok_iff.mpr ⟨members, rfl, frame.relaxed, hread⟩

end WireType

/-- Whatever a type of the protocol reads strictly from a document it reads permissively as well,
and as the same value, down to the variant of every union in it. -/
theorem permissive_decode_of_strict {name : String} {b : Binding}
    (hb : TypeRegistry.protocol.get? name = some b) {value : Json} {path : Path} {x : b.Value}
    (h : b.codec.decode value ⟨path, .strict⟩ = .ok x) :
    b.codec.decode value ⟨path, .permissive⟩ = .ok x := by
  obtain ⟨t, -, rfl⟩ := (TypeRegistry.get?_protocol_iff name b).mp hb
  have hstrict : t.codec.decode value (Context.strict ⟨path, .permissive⟩) = .ok x := h
  exact WireType.decode_of_strict hstrict

theorem permissive_decode_of_strict_codeBlock :
    Protocol.hoverContents.codec.decode
        (.object [("language", .string "rust"), ("value", .string "fn x()")]) ⟨.payload, .strict⟩ =
      .ok (Sum.inr (Sum.inl (Sum.inr (Sum.inl ("rust", "fn x()", ()))))) ∧
    Protocol.hoverContents.codec.decode
        (.object [("language", .string "rust"), ("value", .string "fn x()")])
        ⟨.payload, .permissive⟩ =
      .ok (Sum.inr (Sum.inl (Sum.inr (Sum.inl ("rust", "fn x()", ()))))) := by
  have hcontents : TypeRegistry.protocol.get? "HoverContents" =
      some (WireType.plain Protocol.hoverContents).binding :=
    TypeRegistry.get?_of_getElem? (i := 36) rfl
  have hstrict : Protocol.hoverContents.codec.decode
      (.object [("language", .string "rust"), ("value", .string "fn x()")]) ⟨.payload, .strict⟩ =
        .ok (Sum.inr (Sum.inl (Sum.inr (Sum.inl ("rust", "fn x()", ()))))) := by
    rfl
  exact ⟨hstrict, permissive_decode_of_strict hcontents hstrict⟩

end LspWire
