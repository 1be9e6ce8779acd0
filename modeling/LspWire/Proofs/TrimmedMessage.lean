import LspWire.Proofs.MessageRecord
import LspWire.Proofs.TrimmedType
import LspWire.Proofs.WrittenMessage

/-! Reading a message only trims it.
What a message says outside its parameters and its outcome is its frame, which is written as it was
read; parameters and outcome are trimmed as their types do that. The only thing else that is not
written again are the null parameters of a method that has none. -/

namespace LspWire

namespace Members

def without (name : String) (members : Members) : Members :=
  members.filter fun member => member.1 != name

theorem get?_without (name : String) (members : Members) (key : String) :
    (without name members).get? key = if key = name then none else members.get? key := by
  induction members with
  | nil => simp [without]
  | cons member rest ih =>
    obtain ⟨other, held⟩ := member
    rw [without, List.filter_cons]
    by_cases hother : other = name
    · rw [if_neg (by simp [hother]), ← without, ih, get?_cons, hother]
      split
      · rfl
      · next hne => rw [if_neg fun h => hne h.symm]
    · rw [if_pos (by simp [hother]), ← without, get?_cons, ih, get?_cons]
      by_cases hkey : other = key
      · rw [if_pos hkey, if_pos hkey, if_neg fun h => hother (hkey.trans h)]
      · rw [if_neg hkey, if_neg hkey]

end Members

def Json.without (name : String) : Json → Json
  | .object members => .object (Members.without name members)
  | other => other

theorem Json.wellFormed_without (name : String) {value : Json} (h : value.WellFormed) :
    (value.without name).WellFormed := by
  cases value with
  | object members =>
    rw [Json.wellFormed_object_iff] at h
    exact (Json.wellFormed_object_iff _).mpr
      ⟨List.Pairwise.filter _ h.1, fun member hm => h.2 member (List.mem_of_mem_filter hm)⟩
  | _ => exact h

variable {members target : Members} {cx : Context}

/-- The members of a message that are written again: all of them, but for the null parameters of a
method that has none. -/
def Schema.kept (params : Schema) (members : Members) : Members :=
  if params.suppliesAbsent && (members.get? "params").any Json.isNull then
    members.without "params"
  else members

namespace Schema

theorem kept_eq_without {params : Schema} (hparams : params.suppliesAbsent = true)
    (h : members.get? "params" = some .null) :
    params.kept members = members.without "params" := by
  rw [kept, hparams, h]
  rfl

theorem kept_eq_self {params : Schema}
    (h : ¬(params.suppliesAbsent = true ∧ members.get? "params" = some .null)) :
    params.kept members = members := by
  refine if_neg fun hdrop => h ?_
  rw [Bool.and_eq_true, Option.any_eq_true] at hdrop
  obtain ⟨hparams, held, hheld, hnull⟩ := hdrop
  cases held with
  | null => exact ⟨hparams, hheld⟩
  | _ => cases hnull

theorem get?_kept_of_ne (params : Schema) (members : Members) {key : String} (h : key ≠ "params") :
    (params.kept members).get? key = members.get? key := by
  rw [kept]
  split
  · rw [Members.get?_without, if_neg h]
  · rfl

end Schema

theorem Schema.Trims.rel_of_eq {options : DecodeOptions} {s : Schema} {a b : Option Json}
    {value : Json} (ha : a = some value) (hb : b = some value) (h : value.isScalar = true) :
    Option.Rel (Trims options s) a b := by
  rw [ha, hb]
  exact .some (.scalar h)

theorem NumberOrString.isScalar_write (id : NumberOrString) : id.write.isScalar = true := by
  cases id <;> rfl

theorem RequestFrame.trims {id : NumberOrString} {method : String} {word : Schema}
    {params : Schema.Field} (frame : RequestFrame members cx id method)
    (written : ∀ cx, RequestFrame target cx id method) (hkey : params.key = "params")
    (h : Option.Rel (Schema.Trims cx.options params.type) (target.get? "params")
      (members.get? "params")) :
    (Schema.requestOf word params).Trims cx.options (.object target) (.object members) := by
  have hkeys : (Schema.fields .declared [Schema.version, Schema.required "id" "id" .numberOrString,
      Schema.required "method" "method" word, params]).keys =
        ["jsonrpc", "id", "method", "params"] := by rw [← hkey]; rfl
  have hwritten := written (.root .strict)
  refine .record_of_rel (hkeys ▸ hwritten.names rfl) (hkeys ▸ frame.names) ?_
  refine List.forall_mem_cons.mpr ⟨?_, List.forall_mem_cons.mpr ⟨?_, List.forall_mem_cons.mpr
    ⟨?_, List.forall_mem_singleton.mpr ?_⟩⟩⟩
  · exact Schema.Trims.rel_of_eq hwritten.version frame.version rfl
  · exact Schema.Trims.rel_of_eq (NumberOrString.write_of_required hwritten.id)
      (NumberOrString.write_of_required frame.id) id.isScalar_write
  · exact Schema.Trims.rel_of_eq hwritten.method frame.method rfl
  · change Option.Rel _ (target.get? params.key) (members.get? params.key)
    rwa [hkey]

theorem NotificationFrame.trims {method : String} {word : Schema} {params : Schema.Field}
    (frame : NotificationFrame members cx method)
    (written : ∀ cx, NotificationFrame target cx method) (hkey : params.key = "params")
    (h : Option.Rel (Schema.Trims cx.options params.type) (target.get? "params")
      (members.get? "params")) :
    (Schema.notificationOf word params).Trims cx.options (.object target) (.object members) := by
  have hkeys : (Schema.fields .declared [Schema.version,
      Schema.required "method" "method" word, params]).keys = ["jsonrpc", "method", "params"] := by
    rw [← hkey]; rfl
  have hwritten := written (.root .strict)
  refine .record_of_rel (hkeys ▸ hwritten.names rfl) (hkeys ▸ frame.names) ?_
  refine List.forall_mem_cons.mpr ⟨?_, List.forall_mem_cons.mpr ⟨?_,
    List.forall_mem_singleton.mpr ?_⟩⟩
  · exact Schema.Trims.rel_of_eq hwritten.version frame.version rfl
  · exact Schema.Trims.rel_of_eq hwritten.method frame.method rfl
  · change Option.Rel _ (target.get? params.key) (members.get? params.key)
    rwa [hkey]

theorem ResponseFrame.trims {id : Nullable NumberOrString} {key : OutcomeKey} {result : Schema}
    (frame : ResponseFrame members cx id key) (written : ∀ cx, ResponseFrame target cx id key)
    (h : Option.Rel (Schema.Trims cx.options (key.field result).type) (target.get? key.name)
      (members.get? key.name)) :
    (Schema.responseOf (key.field result)).Trims cx.options (.object target) (.object members) := by
  have hkeys := key.keys_response result
  have hwritten := written (.root .strict)
  refine .record_of_rel (hkeys ▸ hwritten.names rfl) (hkeys ▸ frame.names) ?_
  refine List.forall_mem_cons.mpr ⟨?_, List.forall_mem_cons.mpr ⟨?_,
    List.forall_mem_singleton.mpr ?_⟩⟩
  · exact Schema.Trims.rel_of_eq hwritten.version frame.version rfl
  · refine Schema.Trims.rel_of_eq (NumberOrString.write_of_nullable hwritten.id)
      (NumberOrString.write_of_nullable frame.id) ?_
    cases id with
    | null => rfl
    | value n => exact n.isScalar_write
  · cases key <;> exact h

theorem Schema.given_trims {params : Schema} (hparams : params.faithful = true)
    (hmembers : (Json.object members).WellFormed) {p : params.Val}
    (h : FieldReader.required params.decoder "params" (members.get? "params") cx = .ok p) :
    Option.Rel (Trims cx.options params) (params.given p)
      ((params.kept members).get? "params") := by
  cases habsent : params.suppliesAbsent with
  | true =>
    have hnone : (params.kept members).get? "params" = none := by
      cases params with
      | noParams =>
        cases hheld : members.get? "params" with
        | none => rwa [kept_eq_self fun hdrop => by rw [hheld] at hdrop; cases hdrop.2]
        | some value =>
          rw [hheld] at h
          rw [(Decoder.null_decode_eq_ok_iff value _).mp h] at hheld
          rw [kept_eq_without habsent hheld, Members.get?_without, if_pos rfl]
      | _ => cases habsent
    rw [given_of_suppliesAbsent habsent, hnone]
    exact .none
  | false =>
    rw [given_of_not_suppliesAbsent habsent,
      kept_eq_self fun hdrop => by rw [habsent] at hdrop; cases hdrop.1]
    cases hheld : members.get? "params" with
    | none =>
      rw [hheld] at h
      change params.decoder.absent "params" cx = .ok p at h
      rw [decoder_absent habsent] at h
      cases h
    | some value =>
      rw [hheld] at h
      exact .some (params.onlyTrims hparams value (cx.field "params") p (hmembers.of_get? hheld) h)

theorem ResponseOutcome.encode_trims {s : Schema} (hs : s.faithful = true)
    (hmembers : (Json.object members).WellFormed) {key : OutcomeKey}
    (hkey : OutcomeKey.of (.object members) = .ok key) {outcome : ResponseOutcome s.Val}
    (h : collect s.decoder members cx key = .ok outcome) :
    outcome.key = key ∧ Option.Rel (Schema.Trims cx.options (key.field s).type)
      (some outcome.encode) (members.get? key.name) := by
  rw [OutcomeKey.of_object_iff] at hkey
  cases key with
  | result =>
    obtain ⟨held, hheld⟩ := Option.isSome_iff_exists.mp hkey.1
    obtain ⟨a, ha, rfl⟩ := map_eq_ok_iff.mp h
    rw [hheld] at ha
    refine ⟨rfl, ?_⟩
    change Option.Rel _ _ (members.get? "result")
    rw [hheld]
    exact .some (s.onlyTrims hs held (cx.field "result") a (hmembers.of_get? hheld) ha)
  | error =>
    obtain ⟨held, hheld⟩ := Option.isSome_iff_exists.mp hkey.2
    obtain ⟨e, he, rfl⟩ := map_eq_ok_iff.mp h
    rw [hheld] at he
    refine ⟨rfl, ?_⟩
    change Option.Rel _ _ (members.get? "error")
    rw [hheld]
    exact .some (responseError.onlyTrims (by decide) held (cx.field "error") e
      (hmembers.of_get? hheld) he)

theorem Schema.mem_names_of_kept {params : Schema} {name : String}
    (h : name ∈ (params.kept members).names) : name = "params" ∨ name ∈ members.names := by
  by_cases heq : name = "params"
  · exact .inl heq
  · rw [Members.mem_names_iff, get?_kept_of_ne params members heq, ← Members.mem_names_iff] at h
    exact .inr h

theorem RequestFrame.kept {id : NumberOrString} {method : String}
    (frame : RequestFrame members cx id method) (params : Schema) :
    RequestFrame (params.kept members) cx id method where
  version := (params.get?_kept_of_ne members (by decide)).trans frame.version
  id := (params.get?_kept_of_ne members (by decide : "id" ≠ "params")).symm ▸ frame.id
  method := (params.get?_kept_of_ne members (by decide)).trans frame.method
  names hreject name hname := by
    rcases Schema.mem_names_of_kept hname with rfl | hname
    · decide
    · exact frame.names hreject name hname

theorem NotificationFrame.kept {method : String} (frame : NotificationFrame members cx method)
    (params : Schema) : NotificationFrame (params.kept members) cx method where
  version := (params.get?_kept_of_ne members (by decide)).trans frame.version
  id := (params.get?_kept_of_ne members (by decide)).trans frame.id
  method := (params.get?_kept_of_ne members (by decide)).trans frame.method
  names hreject name hname := by
    rcases Schema.mem_names_of_kept hname with rfl | hname
    · decide
    · exact frame.names hreject name hname

theorem RequestMessage.trims_of_decode {params : Schema} (hparams : params.faithful = true)
    (hnull : params.suppliesAbsent = true ∨ "null" ∉ params.kinds) {name method : String}
    {value : Json} (hvalue : value.WellFormed) {message : RequestMessage params.Val}
    (h : (codec name method params.codec).decode value cx = .ok message) :
    ∃ members document, value = .object members ∧
      (codec name method params.codec).encode message = .ok document ∧
        (Schema.requestOf (.literal "method" method) (Schema.paramsOf params)).Trims cx.options
          document (.object (params.kept members)) := by
  obtain ⟨members, rfl, frame, hp⟩ := RequestMessage.decode_eq_ok_iff.mp h
  obtain ⟨target, htarget, hget, written⟩ := exists_encode hnull name method message
  refine ⟨members, .object target, rfl, htarget, (frame.kept params).trims written rfl ?_⟩
  rw [hget]
  exact Schema.given_trims hparams hvalue hp

theorem NotificationMessage.trims_of_decode {params : Schema} (hparams : params.faithful = true)
    (hnull : params.suppliesAbsent = true ∨ "null" ∉ params.kinds) {name method : String}
    {value : Json} (hvalue : value.WellFormed) {message : NotificationMessage params.Val}
    (h : (codec name method params.codec).decode value cx = .ok message) :
    ∃ members document, value = .object members ∧
      (codec name method params.codec).encode message = .ok document ∧
        (Schema.notificationOf (.literal "method" method) (Schema.paramsOf params)).Trims cx.options
          document (.object (params.kept members)) := by
  obtain ⟨members, rfl, frame, hp⟩ := NotificationMessage.decode_eq_ok_iff.mp h
  obtain ⟨target, htarget, hget, written⟩ := exists_encode hnull name method message
  refine ⟨members, .object target, rfl, htarget, (frame.kept params).trims written rfl ?_⟩
  rw [hget]
  exact Schema.given_trims hparams hvalue hp

theorem ResponseMessage.trims_of_decode {result : Schema} (hresult : result.faithful = true)
    {name : String} {value : Json} (hvalue : value.WellFormed)
    {message : ResponseMessage result.Val}
    (h : (codec name result.codec).decode value cx = .ok message) :
    ∃ document key, (codec name result.codec).encode message = .ok document ∧
      (Schema.responseOf (OutcomeKey.field result key)).Trims cx.options document value := by
  obtain ⟨members, rfl, key, frame, houtcome⟩ := ResponseMessage.decode_eq_ok_iff.mp h
  obtain ⟨rfl, hrel⟩ := ResponseOutcome.encode_trims hresult hvalue frame.outcome houtcome
  obtain ⟨target, htarget, hget, written⟩ := exists_encode name message
  refine ⟨.object target, _, htarget, frame.trims written ?_⟩
  rwa [hget]

theorem Message.trims_of_decode {value : Json} (hvalue : value.WellFormed) {message : Message}
    (h : codec.decode value cx = .ok message) :
    ∃ document envelope, codec.encode message = .ok document ∧
      (Envelope.record envelope).Trims cx.options document value := by
  have hparams : ∀ {members target : Members}, (Json.object members).WellFormed →
      target.get? "params" = (members.get? "params").map Json.sorted →
        Option.Rel (Schema.Trims cx.options .any) (target.get? "params")
          (members.get? "params") := by
    intro members target hmembers hget
    rw [hget]
    cases hheld : members.get? "params" with
    | none => exact .none
    | some held =>
      rw [Option.map_some, Json.sorted_of_wellFormed held (hmembers.of_get? hheld)]
      exact .some (.any held)
  cases message with
  | request raw =>
    obtain ⟨members, rfl, frame, hp⟩ := decode_eq_request_iff.mp h
    obtain ⟨target, htarget, hget, written⟩ :=
      RequestFrame.exists_written raw.id raw.method raw.params
    refine ⟨.object target, .request, by rw [← htarget]; rfl, ?_⟩
    exact frame.trims written rfl (hparams hvalue (hp ▸ hget))
  | notification raw =>
    obtain ⟨members, rfl, frame, hp⟩ := decode_eq_notification_iff.mp h
    obtain ⟨target, htarget, hget, written⟩ :=
      NotificationFrame.exists_written raw.method raw.params
    refine ⟨.object target, .notification, by rw [← htarget]; rfl, ?_⟩
    exact frame.trims written rfl (hparams hvalue (hp ▸ hget))
  | response raw =>
    obtain ⟨members, rfl, key, frame, houtcome⟩ := decode_eq_response_iff.mp h
    obtain ⟨rfl, hrel⟩ :=
      ResponseOutcome.encode_trims (s := .any) rfl hvalue frame.outcome houtcome
    obtain ⟨target, htarget, hget, written⟩ :=
      ResponseMessage.exists_encode (s := .any) "Response" ⟨raw.id, raw.outcome⟩
    refine ⟨.object target, .response _, htarget, frame.trims written ?_⟩
    rwa [hget]

namespace WireType

def dropsNullParams : WireType → Bool
  | request r => r.params.suppliesAbsent
  | notification n => n.params.suppliesAbsent
  | _ => false

/-- Parameters are faithful, and null is a way to write them only if there are none. -/
def faithful : WireType → Bool
  | plain s => s.faithful
  | message => true
  | request r => r.params.faithful && (r.params.suppliesAbsent || !r.params.kinds.contains "null")
  | response r => r.result.faithful
  | notification n =>
    n.params.faithful && (n.params.suppliesAbsent || !n.params.kinds.contains "null")

theorem faithful_params_iff {params : Schema} :
    (params.faithful && (params.suppliesAbsent || !params.kinds.contains "null")) = true ↔
      params.faithful = true ∧ (params.suppliesAbsent = true ∨ "null" ∉ params.kinds) := by
  simp

theorem all_faithful : ∀ entry ∈ all, entry.2.faithful = true := by decide +kernel

theorem trims_of_decode {t : WireType} (ht : t.faithful = true) {value : Json}
    (hvalue : value.WellFormed) {x : t.Value} (h : t.codec.decode value cx = .ok x) :
    ∃ document, t.codec.encode x = .ok document ∧ ∃ s ∈ t.layouts,
      (¬(t.dropsNullParams = true ∧ value.get? "params" = some .null) →
        s.Trims cx.options document value) ∧
      (t.dropsNullParams = true → value.get? "params" = some .null →
        s.Trims cx.options document (value.without "params")) := by
  cases t with
  | plain s =>
    have htrims := s.onlyTrims ht value cx x hvalue h
    exact ⟨_, rfl, s, List.mem_singleton_self s, fun _ => htrims, fun hdrops => (by cases hdrops)⟩
  | message =>
    obtain ⟨document, envelope, hencode, htrims⟩ := Message.trims_of_decode hvalue h
    exact ⟨document, hencode, _, record_mem_layouts envelope, fun _ => htrims,
      fun hdrops => (by cases hdrops)⟩
  | response r =>
    obtain ⟨document, key, hencode, htrims⟩ := ResponseMessage.trims_of_decode ht hvalue h
    exact ⟨document, hencode, _, responseOf_mem_layouts r key, fun _ => htrims,
      fun hdrops => (by cases hdrops)⟩
  | request r =>
    obtain ⟨hparams, hnull⟩ := faithful_params_iff.mp ht
    obtain ⟨members, document, rfl, hencode, htrims⟩ :=
      RequestMessage.trims_of_decode hparams hnull hvalue h
    refine ⟨document, hencode, _, List.mem_singleton_self _, fun hkept => ?_,
      fun hdrops hheld => ?_⟩
    · rwa [Schema.kept_eq_self hkept] at htrims
    · rwa [Schema.kept_eq_without hdrops hheld] at htrims
  | notification n =>
    obtain ⟨hparams, hnull⟩ := faithful_params_iff.mp ht
    obtain ⟨members, document, rfl, hencode, htrims⟩ :=
      NotificationMessage.trims_of_decode hparams hnull hvalue h
    refine ⟨document, hencode, _, List.mem_singleton_self _, fun hkept => ?_,
      fun hdrops hheld => ?_⟩
    · rwa [Schema.kept_eq_self hkept] at htrims
    · rwa [Schema.kept_eq_without hdrops hheld] at htrims

end WireType

def Protocol.typesWithoutParams : List String :=
  (Protocol.requests.filter (·.params.suppliesAbsent)).map Request.requestType ++
    (Protocol.notifications.filter (·.params.suppliesAbsent)).map Notification.typeName

theorem WireType.dropsNullParams_iff : ∀ entry ∈ WireType.all,
    (entry.2.dropsNullParams = true ↔ entry.1 ∈ Protocol.typesWithoutParams) := by
  decide +kernel

theorem Json.Pruned.of_without {name : String} {document value : Json}
    (h : document.Pruned (value.without name)) : document.Pruned value := by
  cases value with
  | object members =>
    change document.Pruned (.object (Members.without name members)) at h
    obtain ⟨kept, rfl⟩ := h.exists_object
    induction members generalizing kept with
    | nil => exact h
    | cons member rest ih =>
      rw [Members.without, List.filter_cons] at h
      split at h
      · cases h with
        | same => exact .keep member.1 (.same member.2) (ih _ (.same _))
        | keep key h hrest => exact .keep key h (ih _ hrest)
        | drop _ h => exact .drop member (ih kept h)
      · exact .drop member (ih kept h)
  | _ => exact h

/-- Whatever a type of the protocol reads from a document, on permissive terms or on strict ones, is
written as that document without some keys of objects. These are keys that the records read do not
declare, and the null parameters of a method that has none. -/
theorem decode_only_deletes {name : String} {b : Binding}
    (hb : TypeRegistry.protocol.get? name = some b) {value : Json} (hvalue : value.WellFormed)
    {cx : Context} {x : b.Value} (h : b.codec.decode value cx = .ok x) :
    ∃ document, b.codec.encode x = .ok document ∧ document.Pruned value ∧
      ∃ t s, (name, t) ∈ WireType.all ∧ b = t.binding ∧ s ∈ t.layouts ∧
        (¬(name ∈ Protocol.typesWithoutParams ∧ value.get? "params" = some .null) →
          s.Trims cx.options document value) ∧
        (name ∈ Protocol.typesWithoutParams → value.get? "params" = some .null →
          s.Trims cx.options document (value.without "params")) := by
  obtain ⟨t, ht, rfl⟩ := (TypeRegistry.get?_protocol_iff name b).mp hb
  obtain ⟨document, hencode, s, hs, hkept, hdropped⟩ :=
    WireType.trims_of_decode (WireType.all_faithful _ ht) hvalue h
  have hdocument := Codec.wellFormed_of_encode hencode
  refine ⟨document, hencode, ?_, t, s, ht, rfl, hs, ?_, ?_⟩
  · by_cases hdrops : t.dropsNullParams = true ∧ value.get? "params" = some .null
    · have hwithout := Json.wellFormed_without "params" hvalue
      exact .of_without ((hdropped hdrops.1 hdrops.2).pruned hdocument hwithout)
    · exact (hkept hdrops).pruned hdocument hvalue
  · rwa [← WireType.dropsNullParams_iff _ ht]
  · rwa [← WireType.dropsNullParams_iff _ ht]

theorem decode_only_deletes_note :
    (Json.object [("character", .number (.integer 7)), ("line", .number (.integer 3)),
      ("note", .bool true)]).WellFormed ∧
    ∃ x, Protocol.position.codec.decode (.object [("character", .number (.integer 7)),
        ("line", .number (.integer 3)), ("note", .bool true)]) (.root .permissive) = .ok x ∧
      Protocol.position.codec.encode x = .ok (.object [("character", .number (.integer 7)),
        ("line", .number (.integer 3))]) ∧
      (Json.object [("character", .number (.integer 7)), ("line", .number (.integer 3))]).Pruned
        (.object [("character", .number (.integer 7)), ("line", .number (.integer 3)),
          ("note", .bool true)]) := by
  have hposition : TypeRegistry.protocol.get? "Position" =
      some (WireType.plain Protocol.position).binding :=
    TypeRegistry.get?_of_getElem? (i := 0) rfl
  have hwf : (Json.object [("character", .number (.integer 7)), ("line", .number (.integer 3)),
      ("note", .bool true)]).WellFormed := by decide
  obtain ⟨x, hx, hencode⟩ : ∃ x, Protocol.position.codec.decode (.object [
      ("character", .number (.integer 7)), ("line", .number (.integer 3)), ("note", .bool true)])
        (.root .permissive) = .ok x ∧ Protocol.position.codec.encode x =
          .ok (.object [("character", .number (.integer 7)), ("line", .number (.integer 3))]) :=
    ⟨_, rfl, rfl⟩
  obtain ⟨document, hdocument, hpruned, -⟩ := decode_only_deletes hposition hwf hx
  have heq := Except.ok.inj (hencode.symm.trans hdocument)
  exact ⟨hwf, x, hx, hencode, heq ▸ hpruned⟩

end LspWire
