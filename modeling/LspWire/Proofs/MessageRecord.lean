import LspWire.Proofs.RegisteredType
import LspWire.Proofs.TypePart
import LspWire.Proofs.TypedMessage

/-! Messages as records.
Once its kind is known, a message is read just as a record of its keys. So what is refused of a
message is refused of such a record, unless it is its kind. -/

namespace LspWire

section

variable {α : Type}

theorem FieldReader.literal_eq (name word : String) :
    FieldReader.literal name word = FieldReader.required (Decoder.literal word) name := by
  funext held cx
  cases held with
  | none => rfl
  | some value => cases value <;> rfl

def Fields.Collects (fields : Fields) (result : Members → Context → Except DecodeError α) : Prop :=
  ∃ f : fields.Val → α, ∀ members cx, result members cx = f <$> fields.collect members cx

theorem Fields.collects_nil (a : α) : Fields.nil.Collects fun _ _ => .ok a :=
  ⟨fun _ => a, fun _ _ => rfl⟩

theorem Fields.Collects.cons {form : FieldForm} {type : Schema} {rest : Fields}
    {result : form.mode.Of type.Val → Members → Context → Except DecodeError α}
    (h : ∀ a, rest.Collects (result a)) :
    (Fields.cons form type rest).Collects fun members cx =>
      form.mode.reader type.decoder form.key (members.get? form.key) cx >>= fun a =>
        result a members cx := by
  choose f hf using h
  refine ⟨fun x => f x.1 x.2, fun members cx => ?_⟩
  refine ((map_bind _ _ _).trans (bind_congr fun a => ?_)).symm
  rw [bind_pure_comp]
  exact (Functor.map_map _ _ _).trans (hf a members cx).symm

theorem Fields.Collects.congr {fields : Fields}
    {result result' : Members → Context → Except DecodeError α} (h : fields.Collects result)
    (heq : ∀ members cx, result' members cx = result members cx) : fields.Collects result' := by
  obtain ⟨f, hf⟩ := h
  exact ⟨f, fun members cx => (heq members cx).trans (hf members cx)⟩

/-- Documents are read just as values of the type, of which something is made. -/
def Reading.ReadsAs (reading : Reading α) (s : Schema) : Prop :=
  ∃ f : s.Val → α, ∀ value cx, reading.decode value cx = f <$> s.decoder.decode value cx

theorem Reading.ReadsAs.decode_eq_error_iff {reading : Reading α} {s : Schema}
    (h : reading.ReadsAs s) {value : Json} {cx : Context} {e : DecodeError} :
    reading.decode value cx = .error e ↔ s.decoder.decode value cx = .error e := by
  obtain ⟨f, hf⟩ := h
  rw [hf]
  exact map_eq_error_iff

theorem Reading.Gives.readsAs {reading : Reading α} {name : String} {fields : Fields}
    {result : Members → Context → Except DecodeError α} (h : Gives reading fields.keys result)
    (hresult : fields.Collects result) : reading.ReadsAs (.record name fields) := by
  obtain ⟨f, hf⟩ := hresult
  refine ⟨f, fun value cx => ?_⟩
  cases value with
  | object members =>
    change _ = f <$> fields.read.decode (.object members) cx
    rw [decode_object h, decode_object fields.gives_read, hf]
    simp only [map_bind, bind_map_left]
    rfl
  | _ => rfl

end

namespace Schema

def version : Field := required "jsonrpc" "jsonrpc" (.literal "jsonrpc" jsonrpcVersion)

def requestOf (method : Schema) (params : Field) : Schema :=
  recordOf "Request"
    [version, required "id" "id" .numberOrString, required "method" "method" method, params]

def notificationOf (method : Schema) (params : Field) : Schema :=
  recordOf "Notification" [version, required "method" "method" method, params]

def responseOf (outcome : Field) : Schema :=
  recordOf "Response" [version, orNull "id" "id" .numberOrString, outcome]

def paramsOf (params : Schema) : Field := required "params" "params" params

def anyParams : Field := optional "params" "params" .any

end Schema

def OutcomeKey.field (result : Schema) : OutcomeKey → Schema.Field
  | .result => Schema.required "result" "result" result
  | .error => Schema.required "error" "error" responseError

def Envelope.record : Envelope → Schema
  | .request => Schema.requestOf .string Schema.anyParams
  | .notification => Schema.notificationOf .string Schema.anyParams
  | .response key => Schema.responseOf (key.field .any)

theorem RequestMessage.readsAs (method : String) (params : Schema) :
    (read method params.decoder).ReadsAs
      (Schema.requestOf (.literal "method" method) (Schema.paramsOf params)) := by
  refine Reading.Gives.readsAs (gives_read method params.decoder) ?_
  rw [FieldReader.literal_eq, FieldReader.literal_eq]
  exact .cons fun _ => .cons fun _ => .cons fun _ => .cons fun _ => Fields.collects_nil _

theorem NotificationMessage.readsAs (method : String) (params : Schema) :
    (read method params.decoder).ReadsAs
      (Schema.notificationOf (.literal "method" method) (Schema.paramsOf params)) := by
  refine Reading.Gives.readsAs (gives_read method params.decoder) ?_
  rw [FieldReader.literal_eq, FieldReader.literal_eq]
  exact .cons fun _ => .cons fun _ => .cons fun _ => Fields.collects_nil _

theorem ResponseOutcome.collects {α : Type} (result : Schema) (key : OutcomeKey)
    (f : ResponseOutcome result.Val → α) :
    (Schema.fields .declared [key.field result]).Collects fun members cx =>
      collect result.decoder members cx key >>= fun outcome => pure (f outcome) := by
  cases key with
  | result =>
    refine Fields.Collects.congr (.cons fun a => Fields.collects_nil (f (.result a))) ?_
    exact fun members cx => bind_map_left _ _ _
  | error =>
    refine Fields.Collects.congr (.cons fun e => Fields.collects_nil (f (.error e))) ?_
    exact fun members cx => bind_map_left _ _ _

theorem OutcomeKey.keys_response (key : OutcomeKey) (result : Schema) :
    (Schema.fields .declared [Schema.version, Schema.orNull "id" "id" .numberOrString,
      key.field result]).keys = ["jsonrpc", "id", key.name] := by
  cases key <;> rfl

theorem ResponseMessage.readsAs (result : Schema) (key : OutcomeKey) :
    (read result.decoder key).ReadsAs (Schema.responseOf (key.field result)) := by
  refine Reading.Gives.readsAs (key.keys_response result ▸ gives_read result.decoder key) ?_
  rw [FieldReader.literal_eq]
  exact .cons fun _ => .cons fun _ => ResponseOutcome.collects result key _

theorem Message.collects_params {α : Type} (f : Option Json → α) :
    (Schema.fields .declared [Schema.anyParams]).Collects fun members _ =>
      .ok (f (members.get? "params")) := by
  refine Fields.Collects.congr (.cons fun held => Fields.collects_nil (f held)) ?_
  intro members cx
  change _ = FieldReader.optional Decoder.any "params" (members.get? "params") cx >>= _
  rw [FieldReader.optional_any]
  rfl

theorem Message.readsAs (envelope : Envelope) : (read envelope).ReadsAs envelope.record := by
  have hgives := gives_read envelope
  rw [FieldReader.literal_eq] at hgives
  cases envelope with
  | request =>
    refine Reading.Gives.readsAs hgives ?_
    exact .cons fun _ => .cons fun id => .cons fun method =>
      collects_params fun params => request ⟨id, method, params⟩
  | notification =>
    refine Reading.Gives.readsAs hgives ?_
    exact .cons fun _ => .cons fun method =>
      collects_params fun params => notification ⟨method, params⟩
  | response key =>
    rw [Envelope.names, ← key.keys_response .any] at hgives
    refine hgives.readsAs ?_
    exact .cons fun _ => .cons fun id =>
      ResponseOutcome.collects .any key fun outcome => response ⟨id, outcome⟩

namespace WireType

/-- The types as which documents are read: those of messages as records, by what they carry. -/
def layouts : WireType → List Schema
  | plain s => [s]
  | message => [Envelope.request.record, Envelope.notification.record,
      (Envelope.response .result).record, (Envelope.response .error).record]
  | request r => [Schema.requestOf (.literal "method" r.method) (Schema.paramsOf r.params)]
  | response r => [Schema.responseOf (OutcomeKey.result.field r.result),
      Schema.responseOf (OutcomeKey.error.field r.result)]
  | notification n =>
    [Schema.notificationOf (.literal "method" n.method) (Schema.paramsOf n.params)]

theorem record_mem_layouts (envelope : Envelope) : envelope.record ∈ message.layouts := by
  cases envelope with
  | request => simp [layouts]
  | notification => simp [layouts]
  | response key => cases key <;> simp [layouts]

theorem responseOf_mem_layouts (r : Request) (key : OutcomeKey) :
    Schema.responseOf (key.field r.result) ∈ (response r).layouts := by
  cases key <;> simp [layouts]

end WireType

def EnvelopeFault (e : DecodeError) : Prop :=
  (∃ reason, e = .envelopeAmbiguous reason) ∨ ∃ expected found, e = .envelopeMismatch expected found

theorem EnvelopeFault.path?_eq_none {e : DecodeError} (h : EnvelopeFault e) : e.path? = none := by
  rcases h with ⟨_, rfl⟩ | ⟨_, _, rfl⟩ <;> rfl

section

variable {value : Json} {cx : Context} {e : DecodeError}

theorem classify_error {name : String} {fields : Fields} (h : classify value cx = .error e) :
    (Schema.record name fields).decoder.decode value cx = .error e ∨ EnvelopeFault e := by
  cases value with
  | object members =>
    dsimp only [classify] at h
    split at h <;> cases h
    exact .inr (.inl ⟨_, rfl⟩)
  | _ => cases h; exact .inl rfl

theorem OutcomeKey.of_error (h : OutcomeKey.of value = .error e) : EnvelopeFault e := by
  unfold OutcomeKey.of at h
  split at h <;> cases h
  · exact .inl ⟨_, rfl⟩
  · exact .inl ⟨_, rfl⟩

theorem expectKind_error {kind : EnvelopeKind} {name : String} {fields : Fields}
    (h : expectKind kind value cx = .error e) :
    (Schema.record name fields).decoder.decode value cx = .error e ∨ EnvelopeFault e := by
  rcases bind_eq_error_iff.mp h with h | ⟨found, -, h⟩
  · exact classify_error h
  · split at h <;> cases h
    exact .inr (.inr ⟨_, _, rfl⟩)

theorem Envelope.of_error {name : String} {fields : Fields} (h : Envelope.of value cx = .error e) :
    (Schema.record name fields).decoder.decode value cx = .error e ∨ EnvelopeFault e := by
  rcases bind_eq_error_iff.mp h with h | ⟨kind, -, h⟩
  · exact classify_error h
  · cases kind with
    | response =>
      rcases bind_eq_error_iff.mp h with h | ⟨_, -, h⟩
      · exact .inr (OutcomeKey.of_error h)
      · cases h
    | _ => cases h

theorem Message.exists_record_of_error (h : decode value cx = .error e) :
    (∃ envelope, (Envelope.record envelope).decoder.decode value cx = .error e) ∨
      EnvelopeFault e := by
  rcases bind_eq_error_iff.mp h with h | ⟨envelope, -, h⟩
  · exact (Envelope.of_error h).imp_left fun h => ⟨.request, h⟩
  · exact .inl ⟨envelope, (readsAs envelope).decode_eq_error_iff.mp h⟩

theorem WireType.exists_layout_of_error {t : WireType} (h : t.codec.decode value cx = .error e) :
    (∃ s ∈ t.layouts, s.decoder.decode value cx = .error e) ∨ EnvelopeFault e := by
  cases t with
  | plain s => exact .inl ⟨s, List.mem_singleton_self s, h⟩
  | message =>
    exact (Message.exists_record_of_error h).imp_left fun ⟨envelope, h⟩ =>
      ⟨_, record_mem_layouts envelope, h⟩
  | request r =>
    rcases bind_eq_error_iff.mp h with h | ⟨_, -, h⟩
    · exact (expectKind_error h).imp_left fun h => ⟨_, List.mem_singleton_self _, h⟩
    · exact .inl ⟨_, List.mem_singleton_self _,
        (RequestMessage.readsAs r.method r.params).decode_eq_error_iff.mp h⟩
  | notification n =>
    rcases bind_eq_error_iff.mp h with h | ⟨_, -, h⟩
    · exact (expectKind_error h).imp_left fun h => ⟨_, List.mem_singleton_self _, h⟩
    · exact .inl ⟨_, List.mem_singleton_self _,
        (NotificationMessage.readsAs n.method n.params).decode_eq_error_iff.mp h⟩
  | response r =>
    rcases bind_eq_error_iff.mp h with h | ⟨_, -, h⟩
    · exact (expectKind_error h).imp_left fun h => ⟨_, responseOf_mem_layouts r .result, h⟩
    · rcases bind_eq_error_iff.mp h with h | ⟨key, -, h⟩
      · exact .inr (OutcomeKey.of_error h)
      · exact .inl ⟨_, responseOf_mem_layouts r key,
          (ResponseMessage.readsAs r.result key).decode_eq_error_iff.mp h⟩

end

end LspWire
