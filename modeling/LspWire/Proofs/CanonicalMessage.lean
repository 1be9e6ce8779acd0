import LspWire.Proofs.ReadAgain
import LspWire.Proofs.WrittenMessage

/-! Canonical messages.
A message is canonical when its parameters or its outcome are. What it is written as has its frame,
so it is read back with what is read of these. -/

namespace LspWire

theorem Schema.required_given {params : Schema} (hs : params.faithful = true)
    (ho : params.orderly = true) {p : params.Val} (hvalid : params.Valid p)
    (hcanonical : params.Canonical p) (cx : Context) :
    FieldReader.required params.decoder "params" (params.given p) cx = .ok p := by
  cases habsent : params.suppliesAbsent with
  | true =>
    cases params with
    | noParams => rfl
    | _ => cases habsent
  | false =>
    rw [given_of_not_suppliesAbsent habsent]
    exact params.decode_encode hs ho p hvalid hcanonical _

theorem RequestMessage.decode_encode {params : Schema} (hs : params.faithful = true)
    (ho : params.orderly = true) (hnull : params.suppliesAbsent = true ∨ "null" ∉ params.kinds)
    {name method : String} {message : RequestMessage params.Val}
    (hvalid : params.Valid message.params) (hcanonical : params.Canonical message.params) :
    ∃ document, (codec name method params.codec).encode message = .ok document ∧
      ∀ cx, (codec name method params.codec).decode document cx = .ok message := by
  obtain ⟨target, htarget, hparams, frame⟩ := exists_encode hnull name method message
  refine ⟨.object target, htarget, fun cx =>
    RequestMessage.decode_eq_ok_iff.mpr ⟨target, rfl, frame cx, ?_⟩⟩
  rw [hparams]
  exact Schema.required_given hs ho hvalid hcanonical cx

theorem NotificationMessage.decode_encode {params : Schema} (hs : params.faithful = true)
    (ho : params.orderly = true) (hnull : params.suppliesAbsent = true ∨ "null" ∉ params.kinds)
    {name method : String} {message : NotificationMessage params.Val}
    (hvalid : params.Valid message.params) (hcanonical : params.Canonical message.params) :
    ∃ document, (codec name method params.codec).encode message = .ok document ∧
      ∀ cx, (codec name method params.codec).decode document cx = .ok message := by
  obtain ⟨target, htarget, hparams, frame⟩ := exists_encode hnull name method message
  refine ⟨.object target, htarget, fun cx =>
    NotificationMessage.decode_eq_ok_iff.mpr ⟨target, rfl, frame cx, ?_⟩⟩
  rw [hparams]
  exact Schema.required_given hs ho hvalid hcanonical cx

namespace ResponseOutcome

variable {s : Schema}

def Everywhere (p : (s : Schema) → s.Val → Prop) (s : Schema) : ResponseOutcome s.Val → Prop
  | result a => s.Everywhere p a
  | error e => responseError.Everywhere p e

theorem collect_encode (hs : s.faithful = true) (ho : s.orderly = true)
    {outcome : ResponseOutcome s.Val} (hvalid : outcome.Everywhere Schema.ValidPart s)
    (hcanonical : outcome.Everywhere Schema.CanonicalPart s) {members : Members} (cx : Context)
    (h : members.get? outcome.key.name = some outcome.encode) :
    collect s.decoder members cx outcome.key = .ok outcome := by
  cases outcome with
  | result a =>
    change members.get? "result" = _ at h
    refine map_eq_ok_iff.mpr ⟨a, ?_, rfl⟩
    rw [h]
    exact s.decode_encode hs ho a hvalid hcanonical _
  | error e =>
    change members.get? "error" = _ at h
    refine map_eq_ok_iff.mpr ⟨e, ?_, rfl⟩
    rw [h]
    exact responseError.decode_encode (by decide) (by decide) e hvalid hcanonical _

end ResponseOutcome

theorem ResponseMessage.decode_encode {s : Schema} (hs : s.faithful = true) (ho : s.orderly = true)
    {name : String} {message : ResponseMessage s.Val}
    (hvalid : message.outcome.Everywhere Schema.ValidPart s)
    (hcanonical : message.outcome.Everywhere Schema.CanonicalPart s) :
    ∃ document, (codec name s.codec).encode message = .ok document ∧
      ∀ cx, (codec name s.codec).decode document cx = .ok message := by
  obtain ⟨target, htarget, hget, frame⟩ := exists_encode name message
  exact ⟨.object target, htarget, fun cx => ResponseMessage.decode_eq_ok_iff.mpr
    ⟨target, rfl, message.outcome.key, frame cx,
      ResponseOutcome.collect_encode hs ho hvalid hcanonical cx hget⟩⟩

namespace Message

def Everywhere (p : (s : Schema) → s.Val → Prop) : Message → Prop
  | request r => ∀ held : Json, r.params = some held → Schema.any.Everywhere p held
  | notification n => ∀ held : Json, n.params = some held → Schema.any.Everywhere p held
  | response r => r.outcome.Everywhere p .any

theorem sorted_params {params : Option Json}
    (h : ∀ held : Json, params = some held → held.WellFormed) :
    params.map Json.sorted = params := by
  cases params with
  | none => rfl
  | some held => exact congrArg some (Json.sorted_of_wellFormed held (h held rfl))

theorem decode_encode {message : Message} (hvalid : message.Everywhere Schema.ValidPart)
    (hcanonical : message.Everywhere Schema.CanonicalPart) :
    ∃ document, codec.encode message = .ok document ∧
      ∀ cx, codec.decode document cx = .ok message := by
  cases message with
  | request raw =>
    obtain ⟨target, htarget, hparams, frame⟩ :=
      RequestFrame.exists_written raw.id raw.method raw.params
    rw [sorted_params hvalid] at hparams
    exact ⟨.object target, by rw [← htarget]; rfl, fun cx =>
      decode_eq_request_iff.mpr ⟨target, rfl, frame cx, hparams.symm⟩⟩
  | notification raw =>
    obtain ⟨target, htarget, hparams, frame⟩ :=
      NotificationFrame.exists_written raw.method raw.params
    rw [sorted_params hvalid] at hparams
    exact ⟨.object target, by rw [← htarget]; rfl, fun cx =>
      decode_eq_notification_iff.mpr ⟨target, rfl, frame cx, hparams.symm⟩⟩
  | response raw =>
    obtain ⟨target, htarget, hget, frame⟩ :=
      ResponseMessage.exists_encode (s := .any) "Response" ⟨raw.id, raw.outcome⟩
    exact ⟨.object target, htarget, fun cx => decode_eq_response_iff.mpr
      ⟨target, rfl, raw.outcome.key, frame cx,
        ResponseOutcome.collect_encode (s := .any) rfl rfl hvalid hcanonical cx hget⟩⟩

end Message

end LspWire
