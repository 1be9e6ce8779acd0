import LspWire.Proofs.ErrorPlace
import LspWire.Proofs.MessageRecord

/-! The verdict on the keys of a message.
Whether an object is a message, and of which kind, is decided by four of its keys being there,
whatever they hold. Readers of messages decide this first: what is wrong with the keys is refused
as such, whatever else is wrong with the object, and nothing but the keys is refused that way. -/

namespace LspWire

structure EnvelopeKeys where
  id : Bool
  method : Bool
  result : Bool
  error : Bool
deriving DecidableEq

namespace EnvelopeKeys

def of (members : Members) : EnvelopeKeys where
  id := members.contains "id"
  method := members.contains "method"
  result := members.contains "result"
  error := members.contains "error"

def kind? (keys : EnvelopeKeys) : Option EnvelopeKind :=
  match keys.method, keys.id with
  | true, true => some .request
  | true, false => some .notification
  | false, true => some .response
  | false, false => none

def kindFault? (keys : EnvelopeKeys) (expected : Option EnvelopeKind) : Option DecodeError :=
  match keys.kind?, expected with
  | none, _ => some (.envelopeAmbiguous "message has neither `id` nor `method`")
  | some _, none => none
  | some found, some kind => if found = kind then none else some (.envelopeMismatch kind found)

def outcomeFault? (keys : EnvelopeKeys) : Option DecodeError :=
  match keys.result, keys.error with
  | true, true => some (.envelopeAmbiguous "response has both `result` and `error`")
  | false, false => some (.envelopeAmbiguous "response has neither `result` nor `error`")
  | _, _ => none

/-- What is wrong with the keys. The kind of a message comes before its outcome, which only a
response has. -/
def fault? (keys : EnvelopeKeys) (expected : Option EnvelopeKind) : Option DecodeError :=
  (keys.kindFault? expected).or
    (if keys.kind? = some .response then keys.outcomeFault? else none)

theorem kindFault?_some_eq_none_iff {keys : EnvelopeKeys} {kind : EnvelopeKind} :
    keys.kindFault? (some kind) = none ↔ keys.kind? = some kind := by
  unfold kindFault?
  cases keys.kind? with
  | none => simp
  | some found => by_cases h : found = kind <;> simp [h]

theorem fault?_eq_some_iff {keys : EnvelopeKeys} {expected : Option EnvelopeKind}
    {e : DecodeError} :
    keys.fault? expected = some e ↔
      keys.kindFault? expected = some e ∨
        keys.kindFault? expected = none ∧ keys.kind? = some .response ∧
          keys.outcomeFault? = some e := by
  unfold fault?
  rw [Option.or_eq_some_iff]
  by_cases h : keys.kind? = some .response <;> simp [h]

theorem fault?_of_ne_response {keys : EnvelopeKeys} {kind : EnvelopeKind} {e : DecodeError}
    (h : kind ≠ .response) :
    keys.fault? (some kind) = some e ↔ keys.kindFault? (some kind) = some e := by
  rw [fault?_eq_some_iff, kindFault?_some_eq_none_iff]
  refine or_iff_left fun ⟨hkind, hresponse, _⟩ => h ?_
  exact Option.some.inj (hkind.symm.trans hresponse)

end EnvelopeKeys

section

variable {members : Members} {cx : Context} {e : DecodeError}

theorem classify_of_ne_object {value : Json} (h : ∀ members, value ≠ .object members) :
    classify value cx = .error (cx.mismatch "object" value) := by
  cases value with
  | object members => exact absurd rfl (h members)
  | _ => rfl

theorem classify_object_eq_ok_iff {kind : EnvelopeKind} :
    classify (.object members) cx = .ok kind ↔ (EnvelopeKeys.of members).kind? = some kind := by
  dsimp only [classify, EnvelopeKeys.kind?, EnvelopeKeys.of]
  cases members.contains "method" <;> cases members.contains "id" <;> simp

theorem classify_object_eq_error_iff :
    classify (.object members) cx = .error e ↔
      (EnvelopeKeys.of members).kindFault? none = some e := by
  dsimp only [classify, EnvelopeKeys.kindFault?, EnvelopeKeys.kind?, EnvelopeKeys.of]
  cases members.contains "method" <;> cases members.contains "id" <;> simp

theorem expectKind_object_eq_error_iff {kind : EnvelopeKind} :
    expectKind kind (.object members) cx = .error e ↔
      (EnvelopeKeys.of members).kindFault? (some kind) = some e := by
  unfold expectKind
  rw [bind_eq_error_iff, classify_object_eq_error_iff]
  simp only [classify_object_eq_ok_iff, EnvelopeKeys.kindFault?]
  cases (EnvelopeKeys.of members).kind? with
  | none => simp
  | some found =>
    by_cases h : found = kind <;>
      simp [h, pure, Except.pure, throw, throwThe, MonadExceptOf.throw]

theorem OutcomeKey.of_object_eq_error_iff :
    OutcomeKey.of (.object members) = .error e ↔
      (EnvelopeKeys.of members).outcomeFault? = some e := by
  simp only [OutcomeKey.of, Json.has, Json.get?, ← Members.contains_eq_isSome_get?,
    EnvelopeKeys.outcomeFault?, EnvelopeKeys.of]
  cases members.contains "result" <;> cases members.contains "error" <;> simp

theorem Envelope.of_object_eq_error_iff :
    Envelope.of (.object members) cx = .error e ↔
      (EnvelopeKeys.of members).fault? none = some e := by
  unfold Envelope.of
  rw [bind_eq_error_iff, classify_object_eq_error_iff, EnvelopeKeys.fault?_eq_some_iff]
  simp only [classify_object_eq_ok_iff, EnvelopeKeys.kindFault?,
    ← OutcomeKey.of_object_eq_error_iff]
  cases (EnvelopeKeys.of members).kind? with
  | none => simp
  | some kind =>
    cases kind with
    | request => simp [pure, Except.pure]
    | notification => simp [pure, Except.pure]
    | response => simp [bind_eq_error_iff, pure, Except.pure]

theorem expectResponse_object_eq_error_iff :
    (expectKind .response (.object members) cx >>= fun _ => OutcomeKey.of (.object members)) =
        .error e ↔
      (EnvelopeKeys.of members).fault? (some .response) = some e := by
  rw [bind_eq_error_iff, expectKind_object_eq_error_iff, EnvelopeKeys.fault?_eq_some_iff,
    EnvelopeKeys.kindFault?_some_eq_none_iff, OutcomeKey.of_object_eq_error_iff]
  refine or_congr_right ⟨fun ⟨_, hfound, he⟩ => ?_, fun ⟨hfound, _, he⟩ => ⟨(), ?_, he⟩⟩
  · rw [expectKind_eq_ok_iff, classify_object_eq_ok_iff] at hfound
    exact ⟨hfound, hfound, he⟩
  · rw [expectKind_eq_ok_iff, classify_object_eq_ok_iff]
    exact hfound

end

section

variable {α γ : Type} {expected : Option EnvelopeKind} {kindOf : α → EnvelopeKind}
  {decode : Json → Context → Except DecodeError α}

/-- A reader of messages, of one kind where one is expected, decides by the keys of an object
before it looks at anything else of it. -/
structure KeysDecide (expected : Option EnvelopeKind) (kindOf : α → EnvelopeKind)
    (decode : Json → Context → Except DecodeError α) : Prop where
  noObject : ∀ value cx, (∀ members, value ≠ .object members) →
    decode value cx = .error (.typeMismatch cx.path "object" value.kind)
  faulty : ∀ members cx e, (EnvelopeKeys.of members).fault? expected = some e →
    decode (.object members) cx = .error e
  sound : ∀ members cx, (EnvelopeKeys.of members).fault? expected = none →
    ∀ e, decode (.object members) cx = .error e → ¬EnvelopeFault e
  kind : ∀ value cx a, decode value cx = .ok a → classify value cx = .ok (kindOf a)
  sameKeys : ∀ members members' cx cx', EnvelopeKeys.of members = EnvelopeKeys.of members' →
    ∀ e, EnvelopeFault e →
      (decode (.object members) cx = .error e ↔ decode (.object members') cx' = .error e)

theorem KeysDecide.of_fault
    (hobject : ∀ value cx, (∀ members, value ≠ .object members) →
      decode value cx = .error (cx.mismatch "object" value))
    (hfaulty : ∀ members cx e, (EnvelopeKeys.of members).fault? expected = some e →
      decode (.object members) cx = .error e)
    (hsound : ∀ members cx, (EnvelopeKeys.of members).fault? expected = none →
      ∀ e, decode (.object members) cx = .error e → ¬EnvelopeFault e)
    (hkind : ∀ value cx a, decode value cx = .ok a → classify value cx = .ok (kindOf a)) :
    KeysDecide expected kindOf decode where
  noObject := hobject
  faulty := hfaulty
  sound := hsound
  kind := hkind
  sameKeys members members' cx cx' hkeys e he := by
    cases hfault : (EnvelopeKeys.of members).fault? expected with
    | some fault =>
      rw [hfaulty members cx fault hfault, hfaulty members' cx' fault (hkeys ▸ hfault)]
    | none =>
      have hleft := fun h => hsound members cx hfault e h he
      have hright := fun h => hsound members' cx' (hkeys ▸ hfault) e h he
      exact iff_of_false hleft hright

theorem KeysDecide.of_gate {gate : Json → Context → Except DecodeError γ}
    {reading : γ → Reading α} {s : γ → Schema}
    (hreading : ∀ found, (reading found).ReadsAs (s found))
    (hobject : ∀ value cx, (∀ members, value ≠ .object members) →
      gate value cx = .error (cx.mismatch "object" value))
    (hgate : ∀ members cx e, gate (.object members) cx = .error e ↔
      (EnvelopeKeys.of members).fault? expected = some e)
    (hkind : ∀ value cx a,
      (gate value cx >>= fun found => (reading found).decode value cx) = .ok a →
        classify value cx = .ok (kindOf a)) :
    KeysDecide expected kindOf fun value cx =>
      gate value cx >>= fun found => (reading found).decode value cx := by
  refine .of_fault (fun value cx h => ?_) (fun members cx e hfault => ?_)
    (fun members cx hfault e he hfaulty => ?_) hkind
  · rw [hobject value cx h]
    rfl
  · rw [(hgate members cx e).mpr hfault]
    rfl
  · rcases bind_eq_error_iff.mp he with he | ⟨found, -, he⟩
    · rw [hgate, hfault] at he
      cases he
    · obtain ⟨path, hpath, -⟩ :=
        (s found).local_decoder.decode ((hreading found).decode_eq_error_iff.mp he)
      rw [hfaulty.path?_eq_none] at hpath
      cases hpath

end

theorem Message.classify_of_decode {value : Json} {cx : Context} {message : Message}
    (h : decode value cx = .ok message) : classify value cx = .ok message.kind := by
  cases message with
  | request raw =>
    obtain ⟨members, rfl, frame, -⟩ := decode_eq_request_iff.mp h
    exact frame.classify
  | notification raw =>
    obtain ⟨members, rfl, frame, -⟩ := decode_eq_notification_iff.mp h
    exact frame.classify
  | response raw =>
    obtain ⟨members, rfl, key, frame, -⟩ := decode_eq_response_iff.mp h
    exact frame.classify

theorem Message.keysDecide : KeysDecide none kind codec.decode := by
  change KeysDecide none kind fun value cx =>
    Envelope.of value cx >>= fun envelope => (read envelope).decode value cx
  refine .of_gate readsAs (fun value cx h => ?_) (fun _ _ _ => Envelope.of_object_eq_error_iff)
    fun value cx message h => classify_of_decode h
  rw [Envelope.of, classify_of_ne_object h]
  rfl

theorem KeysDecide.of_expectKind {α : Type} {kind : EnvelopeKind} {reading : Reading α} {s : Schema}
    (hkind : kind ≠ .response) (hreading : reading.ReadsAs s) :
    KeysDecide (some kind) (fun _ => kind) fun value cx =>
      expectKind kind value cx >>= fun _ => reading.decode value cx := by
  refine .of_gate (fun _ => hreading) (fun value cx h => ?_) (fun members cx e => ?_)
    fun value cx a h => ?_
  · rw [expectKind, classify_of_ne_object h]
    rfl
  · rw [expectKind_object_eq_error_iff, EnvelopeKeys.fault?_of_ne_response hkind]
  · obtain ⟨_, hfound, -⟩ := bind_eq_ok_iff.mp h
    exact (expectKind_eq_ok_iff kind value cx).mp hfound

theorem Request.keysDecide (r : Request) :
    KeysDecide (some .request) (fun _ => .request) r.codec.decode :=
  .of_expectKind (by decide) (RequestMessage.readsAs r.method r.params)

theorem Notification.keysDecide (n : Notification) :
    KeysDecide (some .notification) (fun _ => .notification) n.codec.decode :=
  .of_expectKind (by decide) (NotificationMessage.readsAs n.method n.params)

theorem Request.responseKeysDecide (r : Request) :
    KeysDecide (some .response) (fun _ => .response) r.responseCodec.decode := by
  have hgate : r.responseCodec.decode = fun value cx =>
      (expectKind .response value cx >>= fun _ => OutcomeKey.of value) >>= fun key =>
        (ResponseMessage.read r.result.decoder key).decode value cx := by
    funext value cx
    rw [bind_assoc]
    rfl
  rw [hgate]
  refine .of_gate (ResponseMessage.readsAs r.result) (fun value cx h => ?_)
    (fun _ _ _ => expectResponse_object_eq_error_iff) fun value cx a h => ?_
  · rw [expectKind, classify_of_ne_object h]
    rfl
  · obtain ⟨_, h, -⟩ := bind_eq_ok_iff.mp h
    obtain ⟨_, hfound, -⟩ := bind_eq_ok_iff.mp h
    exact (expectKind_eq_ok_iff .response value cx).mp hfound

/-- Every reader of messages, of any method or of a known one, decides by the four keys alone
whether an object is a message for it, and reads the rest behind that. -/
theorem verdict_of_keys :
    KeysDecide none Message.kind Message.codec.decode ∧
      (∀ r : Request, KeysDecide (some .request) (fun _ => .request) r.codec.decode) ∧
      (∀ n : Notification,
        KeysDecide (some .notification) (fun _ => .notification) n.codec.decode) ∧
      ∀ r : Request, KeysDecide (some .response) (fun _ => .response) r.responseCodec.decode :=
  ⟨Message.keysDecide, Request.keysDecide, Notification.keysDecide, Request.responseKeysDecide⟩

theorem verdict_of_keys_outcomes :
    let members : Members := [("error", .null), ("id", .array []), ("jsonrpc", .string "1.0"),
      ("result", .null), ("trace", .null)]
    Message.codec.decode (.object members) (.root .strict) =
        .error (.envelopeAmbiguous "response has both `result` and `error`") ∧
      Protocol.shutdown.responseCodec.decode (.object members) (.root .permissive) =
        .error (.envelopeAmbiguous "response has both `result` and `error`") ∧
      Protocol.shutdown.codec.decode (.object members) (.root .strict) =
        .error (.envelopeMismatch .request .response) := by
  obtain ⟨hmessage, hrequest, -, hresponse⟩ := verdict_of_keys
  exact ⟨hmessage.faulty _ _ _ rfl, (hresponse Protocol.shutdown).faulty _ _ _ rfl,
    (hrequest Protocol.shutdown).faulty _ _ _ rfl⟩

end LspWire
