import LspWire.Proofs.ReadingRun
import LspWire.Protocol.Method

/-! Messages of a known method against messages of any method.
What a message says besides its parameters or its outcome is a frame: version, kind, identifier,
method and the keys it may have. Both readers accept a document exactly when it has the frame, and
differ only in how they read the rest; so a typed message is a message of its method whose rest the
types of the method accept. -/

namespace LspWire

variable {P R : Type}

theorem classify_object_iff (members : Members) (cx : Context) (kind : EnvelopeKind) :
    classify (.object members) cx = .ok kind ↔
      match kind with
      | .request => (members.get? "method").isSome ∧ (members.get? "id").isSome
      | .notification => (members.get? "method").isSome ∧ members.get? "id" = none
      | .response => members.get? "method" = none ∧ (members.get? "id").isSome := by
  simp only [classify, Members.contains_eq_isSome_get?]
  cases members.get? "method" <;> cases members.get? "id" <;> cases kind <;> simp

theorem OutcomeKey.of_object_iff (members : Members) (key : OutcomeKey) :
    OutcomeKey.of (.object members) = .ok key ↔
      match key with
      | .result => (members.get? "result").isSome ∧ members.get? "error" = none
      | .error => members.get? "result" = none ∧ (members.get? "error").isSome := by
  simp only [OutcomeKey.of, Json.has, Json.get?]
  cases members.get? "result" <;> cases members.get? "error" <;> cases key <;> simp

theorem expectKind_eq_ok_iff (kind : EnvelopeKind) (value : Json) (cx : Context) :
    expectKind kind value cx = .ok () ↔ classify value cx = .ok kind := by
  unfold expectKind
  rw [bind_eq_ok_iff]
  constructor
  · rintro ⟨found, hfound, h⟩
    split at h
    · next heq => rw [hfound, heq]
    · cases h
  · intro h
    exact ⟨kind, h, if_pos rfl⟩

structure RequestFrame (members : Members) (cx : Context) (id : NumberOrString) (method : String) :
    Prop where
  version : members.get? "jsonrpc" = some (.string jsonrpcVersion)
  id : FieldReader.required Decoder.numberOrString "id" (members.get? "id") cx = .ok id
  method : members.get? "method" = some (.string method)
  names : cx.options.rejectUnknownFields = true →
    ∀ name ∈ members.names, name ∈ ["jsonrpc", "id", "method", "params"]

structure NotificationFrame (members : Members) (cx : Context) (method : String) : Prop where
  version : members.get? "jsonrpc" = some (.string jsonrpcVersion)
  id : members.get? "id" = none
  method : members.get? "method" = some (.string method)
  names : cx.options.rejectUnknownFields = true →
    ∀ name ∈ members.names, name ∈ ["jsonrpc", "method", "params"]

def OutcomeKey.name : OutcomeKey → String
  | .result => "result"
  | .error => "error"

structure ResponseFrame (members : Members) (cx : Context) (id : Nullable NumberOrString)
    (key : OutcomeKey) : Prop where
  version : members.get? "jsonrpc" = some (.string jsonrpcVersion)
  id : FieldReader.nullable Decoder.numberOrString "id" (members.get? "id") cx = .ok id
  method : members.get? "method" = none
  outcome : OutcomeKey.of (.object members) = .ok key
  names : cx.options.rejectUnknownFields = true →
    ∀ name ∈ members.names, name ∈ ["jsonrpc", "id", key.name]

theorem RequestFrame.classify {members : Members} {cx : Context} {id : NumberOrString}
    {method : String} (h : RequestFrame members cx id method) :
    LspWire.classify (.object members) cx = .ok .request := by
  obtain ⟨held, hid, -⟩ := FieldReader.required_eq_ok_of_present.mp h.id
  rw [classify_object_iff]
  simp [h.method, hid]

theorem NotificationFrame.classify {members : Members} {cx : Context} {method : String}
    (h : NotificationFrame members cx method) :
    LspWire.classify (.object members) cx = .ok .notification := by
  rw [classify_object_iff]
  simp [h.method, h.id]

theorem ResponseFrame.classify {members : Members} {cx : Context} {id : Nullable NumberOrString}
    {key : OutcomeKey} (h : ResponseFrame members cx id key) :
    LspWire.classify (.object members) cx = .ok .response := by
  rw [classify_object_iff]
  refine ⟨h.method, ?_⟩
  have hid := h.id
  cases hget : members.get? "id" with
  | none => rw [hget] at hid; cases hid
  | some held => rfl

open Reading (Gives gives_pure gives_access gives_bind)

namespace RequestMessage

theorem gives_read (method : String) (params : Decoder P) :
    Gives (read method params) ["jsonrpc", "id", "method", "params"] fun members cx => do
      FieldReader.literal "jsonrpc" jsonrpcVersion (members.get? "jsonrpc") cx
      let id ← FieldReader.required Decoder.numberOrString "id" (members.get? "id") cx
      FieldReader.literal "method" method (members.get? "method") cx
      let params ← FieldReader.required params "params" (members.get? "params") cx
      return ⟨id, params⟩ :=
  gives_bind (gives_access _ _) fun _ => gives_bind (gives_access _ _) fun _ =>
    gives_bind (gives_access _ _) fun _ => gives_bind (gives_access _ _) fun _ => gives_pure _

theorem decode_eq_ok_iff {method : String} {params : Decoder P} {value : Json} {cx : Context}
    {message : RequestMessage P} :
    decode method params value cx = .ok message ↔
      ∃ members : Members, value = .object members ∧ RequestFrame members cx message.id method ∧
        FieldReader.required params "params" (members.get? "params") cx = .ok message.params := by
  unfold decode
  rw [bind_eq_ok_iff]
  constructor
  · rintro ⟨_, -, h⟩
    obtain ⟨members, rfl, h, hnames⟩ := (gives_read method params).decode_eq_ok_iff.mp h
    obtain ⟨_, hversion, h⟩ := bind_eq_ok_iff.mp h
    obtain ⟨id, hid, h⟩ := bind_eq_ok_iff.mp h
    obtain ⟨_, hmethod, h⟩ := bind_eq_ok_iff.mp h
    obtain ⟨p, hparams, h⟩ := bind_eq_ok_iff.mp h
    cases h
    rw [FieldReader.literal_eq_ok_iff] at hversion hmethod
    exact ⟨members, rfl, ⟨hversion, hid, hmethod, hnames⟩, hparams⟩
  · rintro ⟨members, rfl, frame, hparams⟩
    refine ⟨(), (expectKind_eq_ok_iff _ _ _).mpr frame.classify, ?_⟩
    refine (gives_read method params).decode_eq_ok_iff.mpr ⟨members, rfl, ?_, frame.names⟩
    refine bind_eq_ok_iff.mpr ⟨(), (FieldReader.literal_eq_ok_iff _ _ _ _).mpr frame.version, ?_⟩
    refine bind_eq_ok_iff.mpr ⟨_, frame.id, ?_⟩
    refine bind_eq_ok_iff.mpr ⟨(), (FieldReader.literal_eq_ok_iff _ _ _ _).mpr frame.method, ?_⟩
    exact bind_eq_ok_iff.mpr ⟨_, hparams, rfl⟩

end RequestMessage

namespace NotificationMessage

theorem gives_read (method : String) (params : Decoder P) :
    Gives (read method params) ["jsonrpc", "method", "params"] fun members cx => do
      FieldReader.literal "jsonrpc" jsonrpcVersion (members.get? "jsonrpc") cx
      FieldReader.literal "method" method (members.get? "method") cx
      let params ← FieldReader.required params "params" (members.get? "params") cx
      return ⟨params⟩ :=
  gives_bind (gives_access _ _) fun _ => gives_bind (gives_access _ _) fun _ =>
    gives_bind (gives_access _ _) fun _ => gives_pure _

theorem decode_eq_ok_iff {method : String} {params : Decoder P} {value : Json} {cx : Context}
    {message : NotificationMessage P} :
    decode method params value cx = .ok message ↔
      ∃ members : Members, value = .object members ∧ NotificationFrame members cx method ∧
        FieldReader.required params "params" (members.get? "params") cx = .ok message.params := by
  unfold decode
  rw [bind_eq_ok_iff]
  constructor
  · rintro ⟨_, hkind, h⟩
    obtain ⟨members, rfl, h, hnames⟩ := (gives_read method params).decode_eq_ok_iff.mp h
    obtain ⟨_, hversion, h⟩ := bind_eq_ok_iff.mp h
    obtain ⟨_, hmethod, h⟩ := bind_eq_ok_iff.mp h
    obtain ⟨p, hparams, h⟩ := bind_eq_ok_iff.mp h
    cases h
    rw [expectKind_eq_ok_iff, classify_object_iff] at hkind
    rw [FieldReader.literal_eq_ok_iff] at hversion hmethod
    exact ⟨members, rfl, ⟨hversion, hkind.2, hmethod, hnames⟩, hparams⟩
  · rintro ⟨members, rfl, frame, hparams⟩
    refine ⟨(), (expectKind_eq_ok_iff _ _ _).mpr frame.classify, ?_⟩
    refine (gives_read method params).decode_eq_ok_iff.mpr ⟨members, rfl, ?_, frame.names⟩
    refine bind_eq_ok_iff.mpr ⟨(), (FieldReader.literal_eq_ok_iff _ _ _ _).mpr frame.version, ?_⟩
    refine bind_eq_ok_iff.mpr ⟨(), (FieldReader.literal_eq_ok_iff _ _ _ _).mpr frame.method, ?_⟩
    exact bind_eq_ok_iff.mpr ⟨_, hparams, rfl⟩

end NotificationMessage

def ResponseOutcome.collect (result : Decoder R) (members : Members) (cx : Context) :
    OutcomeKey → Except DecodeError (ResponseOutcome R)
  | .result => (FieldReader.required result "result" (members.get? "result") cx).map .result
  | .error =>
    (FieldReader.required responseError.decoder "error" (members.get? "error") cx).map .error

theorem ResponseOutcome.gives_read (result : Decoder R) (key : OutcomeKey) :
    Gives (ResponseOutcome.read result key) [key.name] fun members cx =>
      ResponseOutcome.collect result members cx key := by
  cases key with
  | result => exact gives_bind (gives_access _ _) fun _ => gives_pure _
  | error => exact gives_bind (gives_access _ _) fun _ => gives_pure _

namespace ResponseMessage

theorem gives_read (result : Decoder R) (key : OutcomeKey) :
    Gives (read result key) ["jsonrpc", "id", key.name] fun members cx => do
      FieldReader.literal "jsonrpc" jsonrpcVersion (members.get? "jsonrpc") cx
      let id ← FieldReader.nullable Decoder.numberOrString "id" (members.get? "id") cx
      let outcome ← ResponseOutcome.collect result members cx key
      return ⟨id, outcome⟩ :=
  gives_bind (gives_access _ _) fun _ => gives_bind (gives_access _ _) fun _ =>
    gives_bind (ResponseOutcome.gives_read result key) fun _ => gives_pure _

theorem decode_eq_ok_iff {result : Decoder R} {value : Json} {cx : Context}
    {message : ResponseMessage R} :
    decode result value cx = .ok message ↔
      ∃ members : Members, value = .object members ∧
        ∃ key, ResponseFrame members cx message.id key ∧
          ResponseOutcome.collect result members cx key = .ok message.outcome := by
  unfold decode
  rw [bind_eq_ok_iff]
  constructor
  · rintro ⟨_, hkind, h⟩
    obtain ⟨key, hkey, h⟩ := bind_eq_ok_iff.mp h
    obtain ⟨members, rfl, h, hnames⟩ := (gives_read result key).decode_eq_ok_iff.mp h
    obtain ⟨_, hversion, h⟩ := bind_eq_ok_iff.mp h
    obtain ⟨id, hid, h⟩ := bind_eq_ok_iff.mp h
    obtain ⟨outcome, houtcome, h⟩ := bind_eq_ok_iff.mp h
    cases h
    rw [expectKind_eq_ok_iff, classify_object_iff] at hkind
    rw [FieldReader.literal_eq_ok_iff] at hversion
    exact ⟨members, rfl, key, ⟨hversion, hid, hkind.1, hkey, hnames⟩, houtcome⟩
  · rintro ⟨members, rfl, key, frame, houtcome⟩
    refine ⟨(), (expectKind_eq_ok_iff _ _ _).mpr frame.classify, ?_⟩
    refine bind_eq_ok_iff.mpr ⟨key, frame.outcome, ?_⟩
    refine (gives_read result key).decode_eq_ok_iff.mpr ⟨members, rfl, ?_, frame.names⟩
    refine bind_eq_ok_iff.mpr ⟨(), (FieldReader.literal_eq_ok_iff _ _ _ _).mpr frame.version, ?_⟩
    refine bind_eq_ok_iff.mpr ⟨_, frame.id, ?_⟩
    exact bind_eq_ok_iff.mpr ⟨_, houtcome, rfl⟩

end ResponseMessage

def Envelope.names : Envelope → List String
  | .request => ["jsonrpc", "id", "method", "params"]
  | .notification => ["jsonrpc", "method", "params"]
  | .response key => ["jsonrpc", "id", key.name]

theorem Envelope.of_eq_ok_iff (value : Json) (cx : Context) (envelope : Envelope) :
    Envelope.of value cx = .ok envelope ↔
      match envelope with
      | .request => classify value cx = .ok .request
      | .notification => classify value cx = .ok .notification
      | .response key => classify value cx = .ok .response ∧ OutcomeKey.of value = .ok key := by
  unfold Envelope.of
  cases classify value cx with
  | error e => cases envelope <;> simp [bind, Except.bind]
  | ok kind =>
    cases kind with
    | request => cases envelope <;> simp [bind, Except.bind, pure, Except.pure]
    | notification => cases envelope <;> simp [bind, Except.bind, pure, Except.pure]
    | response =>
      cases OutcomeKey.of value <;> cases envelope <;> simp [bind, Except.bind, pure, Except.pure]

namespace Message

def collect (members : Members) (cx : Context) : Envelope → Except DecodeError Message
  | .request => do
    let id ← FieldReader.required Decoder.numberOrString "id" (members.get? "id") cx
    let method ← FieldReader.required Decoder.string "method" (members.get? "method") cx
    return request ⟨id, method, members.get? "params"⟩
  | .notification => do
    let method ← FieldReader.required Decoder.string "method" (members.get? "method") cx
    return notification ⟨method, members.get? "params"⟩
  | .response key => do
    let id ← FieldReader.nullable Decoder.numberOrString "id" (members.get? "id") cx
    let outcome ← ResponseOutcome.collect Decoder.any members cx key
    return response ⟨id, outcome⟩

theorem gives_read (envelope : Envelope) :
    Gives (read envelope) envelope.names fun members cx =>
      FieldReader.literal "jsonrpc" jsonrpcVersion (members.get? "jsonrpc") cx >>= fun _ =>
        collect members cx envelope := by
  cases envelope with
  | request =>
    refine gives_bind (gives_access _ _) fun _ => ?_
    refine (gives_bind (gives_bind (gives_access _ _) fun id => gives_bind (gives_access _ _)
      fun method => gives_bind (gives_access _ _) fun params =>
        gives_pure (RawRequest.mk id method params)) fun raw =>
          gives_pure (request raw)).congr fun members cx => ?_
    simp only [FieldReader.optional_any, bind_assoc]
    rfl
  | notification =>
    refine gives_bind (gives_access _ _) fun _ => ?_
    refine (gives_bind (gives_bind (gives_access _ _) fun method => gives_bind (gives_access _ _)
      fun params => gives_pure (RawNotification.mk method params)) fun raw =>
        gives_pure (notification raw)).congr fun members cx => ?_
    simp only [FieldReader.optional_any, bind_assoc]
    rfl
  | response key =>
    refine gives_bind (gives_access _ _) fun _ => ?_
    refine (gives_bind (gives_bind (gives_access _ _) fun id =>
      gives_bind (ResponseOutcome.gives_read Decoder.any key)
        fun outcome => gives_pure (RawResponse.mk id outcome)) fun raw =>
          gives_pure (response raw)).congr fun members cx => ?_
    simp only [bind_assoc]
    rfl

theorem decode_eq_ok_iff {value : Json} {cx : Context} {message : Message} :
    decode value cx = .ok message ↔
      ∃ members : Members, value = .object members ∧
        ∃ envelope, Envelope.of (.object members) cx = .ok envelope ∧
          members.get? "jsonrpc" = some (.string jsonrpcVersion) ∧
          collect members cx envelope = .ok message ∧
          (cx.options.rejectUnknownFields = true →
            ∀ name ∈ members.names, name ∈ envelope.names) := by
  unfold decode
  rw [bind_eq_ok_iff]
  constructor
  · rintro ⟨envelope, henvelope, h⟩
    obtain ⟨members, rfl, h, hnames⟩ := (gives_read envelope).decode_eq_ok_iff.mp h
    obtain ⟨_, hversion, h⟩ := bind_eq_ok_iff.mp h
    rw [FieldReader.literal_eq_ok_iff] at hversion
    exact ⟨members, rfl, envelope, henvelope, hversion, h, hnames⟩
  · rintro ⟨members, rfl, envelope, henvelope, hversion, h, hnames⟩
    refine ⟨envelope, henvelope,
      (gives_read envelope).decode_eq_ok_iff.mpr ⟨members, rfl, ?_, hnames⟩⟩
    exact bind_eq_ok_iff.mpr ⟨(), (FieldReader.literal_eq_ok_iff _ _ _ _).mpr hversion, h⟩

theorem decode_eq_request_iff {value : Json} {cx : Context} {raw : RawRequest} :
    decode value cx = .ok (request raw) ↔
      ∃ members : Members, value = .object members ∧ RequestFrame members cx raw.id raw.method ∧
        raw.params = members.get? "params" := by
  rw [decode_eq_ok_iff]
  constructor
  · rintro ⟨members, rfl, envelope, henvelope, hversion, h, hnames⟩
    refine ⟨members, rfl, ?_⟩
    cases envelope with
    | request =>
      obtain ⟨id, hid, h⟩ := bind_eq_ok_iff.mp h
      obtain ⟨method, hmethod, h⟩ := bind_eq_ok_iff.mp h
      cases h
      rw [FieldReader.required_string_eq_ok_iff] at hmethod
      exact ⟨⟨hversion, hid, hmethod, hnames⟩, rfl⟩
    | notification => obtain ⟨_, _, h⟩ := bind_eq_ok_iff.mp h; cases h
    | response key =>
      obtain ⟨_, _, h⟩ := bind_eq_ok_iff.mp h
      obtain ⟨_, _, h⟩ := bind_eq_ok_iff.mp h
      cases h
  · rintro ⟨members, rfl, frame, hparams⟩
    refine ⟨members, rfl, .request, (Envelope.of_eq_ok_iff _ _ _).mpr frame.classify,
      frame.version, ?_, frame.names⟩
    refine bind_eq_ok_iff.mpr ⟨_, frame.id, bind_eq_ok_iff.mpr
      ⟨_, FieldReader.required_string_eq_ok_iff.mpr frame.method, ?_⟩⟩
    rw [← hparams]
    rfl

theorem decode_eq_notification_iff {value : Json} {cx : Context} {raw : RawNotification} :
    decode value cx = .ok (notification raw) ↔
      ∃ members : Members, value = .object members ∧ NotificationFrame members cx raw.method ∧
        raw.params = members.get? "params" := by
  rw [decode_eq_ok_iff]
  constructor
  · rintro ⟨members, rfl, envelope, henvelope, hversion, h, hnames⟩
    refine ⟨members, rfl, ?_⟩
    cases envelope with
    | request =>
      obtain ⟨_, _, h⟩ := bind_eq_ok_iff.mp h
      obtain ⟨_, _, h⟩ := bind_eq_ok_iff.mp h
      cases h
    | notification =>
      obtain ⟨method, hmethod, h⟩ := bind_eq_ok_iff.mp h
      cases h
      rw [FieldReader.required_string_eq_ok_iff] at hmethod
      have hclassify := (classify_object_iff _ _ _).mp ((Envelope.of_eq_ok_iff _ _ _).mp henvelope)
      exact ⟨⟨hversion, hclassify.2, hmethod, hnames⟩, rfl⟩
    | response key =>
      obtain ⟨_, _, h⟩ := bind_eq_ok_iff.mp h
      obtain ⟨_, _, h⟩ := bind_eq_ok_iff.mp h
      cases h
  · rintro ⟨members, rfl, frame, hparams⟩
    refine ⟨members, rfl, .notification, (Envelope.of_eq_ok_iff _ _ _).mpr frame.classify,
      frame.version, ?_, frame.names⟩
    refine bind_eq_ok_iff.mpr ⟨_, FieldReader.required_string_eq_ok_iff.mpr frame.method, ?_⟩
    rw [← hparams]
    rfl

theorem decode_eq_response_iff {value : Json} {cx : Context} {raw : RawResponse} :
    decode value cx = .ok (response raw) ↔
      ∃ members : Members, value = .object members ∧ ∃ key, ResponseFrame members cx raw.id key ∧
        ResponseOutcome.collect Decoder.any members cx key = .ok raw.outcome := by
  rw [decode_eq_ok_iff]
  constructor
  · rintro ⟨members, rfl, envelope, henvelope, hversion, h, hnames⟩
    refine ⟨members, rfl, ?_⟩
    cases envelope with
    | request =>
      obtain ⟨_, _, h⟩ := bind_eq_ok_iff.mp h
      obtain ⟨_, _, h⟩ := bind_eq_ok_iff.mp h
      cases h
    | notification => obtain ⟨_, _, h⟩ := bind_eq_ok_iff.mp h; cases h
    | response key =>
      obtain ⟨id, hid, h⟩ := bind_eq_ok_iff.mp h
      obtain ⟨outcome, houtcome, h⟩ := bind_eq_ok_iff.mp h
      cases h
      obtain ⟨hclassify, hkey⟩ := (Envelope.of_eq_ok_iff _ _ _).mp henvelope
      have hmethod := ((classify_object_iff _ _ _).mp hclassify).1
      exact ⟨key, ⟨hversion, hid, hmethod, hkey, hnames⟩, houtcome⟩
  · rintro ⟨members, rfl, key, frame, houtcome⟩
    refine ⟨members, rfl, .response key,
      (Envelope.of_eq_ok_iff _ _ _).mpr ⟨frame.classify, frame.outcome⟩, frame.version, ?_,
      frame.names⟩
    exact bind_eq_ok_iff.mpr ⟨_, frame.id, bind_eq_ok_iff.mpr ⟨_, houtcome, rfl⟩⟩

end Message

/-- What the type of a result makes of an outcome that was read without it: an error stays as it
is, a result is read in its place. -/
def ResponseOutcome.Refines (result : Decoder R) (cx : Context) (raw : ResponseOutcome Json) :
    ResponseOutcome R → Prop
  | .error e => raw = .error e
  | .result a => ∃ held, raw = .result held ∧ result.decode held (cx.field "result") = .ok a

theorem ResponseOutcome.collect_eq_ok_iff {result : Decoder R} {members : Members} {cx : Context}
    {key : OutcomeKey} (hkey : OutcomeKey.of (.object members) = .ok key)
    {outcome : ResponseOutcome R} :
    ResponseOutcome.collect result members cx key = .ok outcome ↔
      ∃ raw, ResponseOutcome.collect Decoder.any members cx key = .ok raw ∧
        raw.Refines result cx outcome := by
  rw [OutcomeKey.of_object_iff] at hkey
  cases key with
  | result =>
    obtain ⟨held, hheld⟩ := Option.isSome_iff_exists.mp hkey.1
    simp only [collect, hheld, map_eq_ok_iff, FieldReader.required, Decoder.any, Decoder.present]
    constructor
    · rintro ⟨a, ha, rfl⟩
      exact ⟨.result held, ⟨held, rfl, rfl⟩, held, rfl, ha⟩
    · rintro ⟨raw, ⟨_, hraw, rfl⟩, hrefines⟩
      cases hraw
      cases outcome with
      | result a =>
        obtain ⟨_, hresult, ha⟩ := hrefines
        cases hresult
        exact ⟨a, ha, rfl⟩
      | error e => cases hrefines
  | error =>
    simp only [collect, map_eq_ok_iff]
    constructor
    · rintro ⟨e, he, rfl⟩
      exact ⟨.error e, ⟨e, he, rfl⟩, rfl⟩
    · rintro ⟨raw, ⟨e, he, rfl⟩, hrefines⟩
      cases outcome with
      | result a => obtain ⟨_, h, _⟩ := hrefines; cases h
      | error e' => cases hrefines; exact ⟨e, he, rfl⟩

theorem ResponseMessage.decode_eq_ok_iff_message {result : Decoder R} {value : Json} {cx : Context}
    {message : ResponseMessage R} :
    ResponseMessage.decode result value cx = .ok message ↔
      ∃ raw, Message.decode value cx = .ok (.response ⟨message.id, raw⟩) ∧
        raw.Refines result cx message.outcome := by
  rw [ResponseMessage.decode_eq_ok_iff]
  constructor
  · rintro ⟨members, rfl, key, frame, h⟩
    obtain ⟨raw, hraw, hrefines⟩ := (ResponseOutcome.collect_eq_ok_iff frame.outcome).mp h
    exact ⟨raw, Message.decode_eq_response_iff.mpr ⟨members, rfl, key, frame, hraw⟩, hrefines⟩
  · rintro ⟨raw, h, hrefines⟩
    obtain ⟨members, rfl, key, frame, hraw⟩ := Message.decode_eq_response_iff.mp h
    exact ⟨members, rfl, key, frame,
      (ResponseOutcome.collect_eq_ok_iff frame.outcome).mpr ⟨raw, hraw, hrefines⟩⟩

theorem RequestMessage.decode_eq_ok_iff_message {method : String} {params : Decoder P}
    {value : Json} {cx : Context} {message : RequestMessage P} :
    RequestMessage.decode method params value cx = .ok message ↔
      ∃ given, Message.decode value cx = .ok (.request ⟨message.id, method, given⟩) ∧
        FieldReader.required params "params" given cx = .ok message.params := by
  rw [RequestMessage.decode_eq_ok_iff]
  constructor
  · rintro ⟨members, rfl, frame, hparams⟩
    exact ⟨_, Message.decode_eq_request_iff.mpr ⟨members, rfl, frame, rfl⟩, hparams⟩
  · rintro ⟨given, h, hparams⟩
    obtain ⟨members, rfl, frame, rfl⟩ := Message.decode_eq_request_iff.mp h
    exact ⟨members, rfl, frame, hparams⟩

theorem NotificationMessage.decode_eq_ok_iff_message {method : String} {params : Decoder P}
    {value : Json} {cx : Context} {message : NotificationMessage P} :
    NotificationMessage.decode method params value cx = .ok message ↔
      ∃ given, Message.decode value cx = .ok (.notification ⟨method, given⟩) ∧
        FieldReader.required params "params" given cx = .ok message.params := by
  rw [NotificationMessage.decode_eq_ok_iff]
  constructor
  · rintro ⟨members, rfl, frame, hparams⟩
    exact ⟨_, Message.decode_eq_notification_iff.mpr ⟨members, rfl, frame, rfl⟩, hparams⟩
  · rintro ⟨given, h, hparams⟩
    obtain ⟨members, rfl, frame, rfl⟩ := Message.decode_eq_notification_iff.mp h
    exact ⟨members, rfl, frame, hparams⟩

/-- The typed readers refine the reader of messages of any method, on every document and in every
context: a message is accepted with its type exactly if it is accepted without, is of its method,
and has parameters or a result of its type. Errors in place of a result have one type for all. -/
theorem typed_decode_iff_message_decode :
    (∀ (r : Request) (value : Json) (cx : Context) (id : NumberOrString) (params : r.params.Val),
      r.codec.decode value cx = .ok ⟨id, params⟩ ↔
        ∃ given, Message.decode value cx = .ok (.request ⟨id, r.method, given⟩) ∧
          (match given with
            | some held => r.params.decoder.decode held (cx.field "params")
            | none => r.params.decoder.absent "params" cx) = .ok params) ∧
    (∀ (n : Notification) (value : Json) (cx : Context) (params : n.params.Val),
      n.codec.decode value cx = .ok ⟨params⟩ ↔
        ∃ given, Message.decode value cx = .ok (.notification ⟨n.method, given⟩) ∧
          (match given with
            | some held => n.params.decoder.decode held (cx.field "params")
            | none => n.params.decoder.absent "params" cx) = .ok params) ∧
    (∀ (r : Request) (value : Json) (cx : Context) (id : Nullable NumberOrString)
        (outcome : ResponseOutcome r.result.Val),
      r.responseCodec.decode value cx = .ok ⟨id, outcome⟩ ↔
        ∃ raw, Message.decode value cx = .ok (.response ⟨id, raw⟩) ∧
          match outcome with
          | .error e => raw = .error e
          | .result a => ∃ held, raw = .result held ∧
              r.result.decoder.decode held (cx.field "result") = .ok a) ∧
    (∀ (r r' : Request) (value : Json) (cx : Context) (id : Nullable NumberOrString)
        (e : ResponseError),
      r.responseCodec.decode value cx = .ok ⟨id, .error e⟩ ↔
        r'.responseCodec.decode value cx = .ok ⟨id, .error e⟩) := by
  have hresponse : ∀ (r : Request) (value : Json) (cx : Context) (id : Nullable NumberOrString)
      (outcome : ResponseOutcome r.result.Val),
      r.responseCodec.decode value cx = .ok ⟨id, outcome⟩ ↔
        ∃ raw, Message.decode value cx = .ok (.response ⟨id, raw⟩) ∧
          raw.Refines r.result.decoder cx outcome :=
    fun r value cx id outcome => ResponseMessage.decode_eq_ok_iff_message
  refine ⟨?_, ?_, ?_, ?_⟩
  · intro r value cx id params
    refine RequestMessage.decode_eq_ok_iff_message.trans (exists_congr fun given => ?_)
    cases given <;> rfl
  · intro n value cx params
    refine NotificationMessage.decode_eq_ok_iff_message.trans (exists_congr fun given => ?_)
    cases given <;> rfl
  · intro r value cx id outcome
    rw [hresponse]
    cases outcome <;> rfl
  · intro r r' value cx id e
    rw [hresponse, hresponse]
    rfl

end LspWire
