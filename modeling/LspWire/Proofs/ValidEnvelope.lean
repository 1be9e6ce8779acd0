import LspWire.Proofs.CanonicalMessage
import LspWire.Proofs.TrimmedMessage

/-! Messages are written as valid envelopes.
What a message of a known method is written as is a message of any method: the one of its kind with
its identifier and its method that holds, as JSON, the parameters or the outcome. Nothing of that
depends on whether the parameters or the result can be read back, so values beyond what their
readers admit are written as valid envelopes too. -/

namespace LspWire

theorem Schema.given_eq {params : Schema} (p : params.Val) :
    (params = .noParams → params.given p = none) ∧
      (params ≠ .noParams → params.given p = some (params.encode p)) := by
  refine ⟨fun h => ?_, fun h => ?_⟩
  · subst h
    rfl
  · cases params with
    | noParams => exact absurd rfl h
    | _ => rfl

theorem ResponseError.required_encode {e : ResponseError}
    (he : ∀ data, e.data = some data → data.WellFormed) (cx : Context) :
    FieldReader.required responseError.decoder "error" (some (responseError.encode e)) cx =
      .ok e := by
  have hvalid : responseError.Valid e :=
    ⟨trivial, fun _ _ => trivial, fun _ _ => trivial, fun data hdata => he data hdata, trivial⟩
  have hcanonical : responseError.Canonical e :=
    ⟨trivial, fun _ _ => trivial, fun _ _ => trivial, fun _ _ => trivial, trivial⟩
  exact responseError.decode_encode (by decide) (by decide) e hvalid hcanonical _

namespace ResponseOutcome

variable {s : Schema}

def raw : ResponseOutcome s.Val → ResponseOutcome Json
  | .result a => .result (s.encode a)
  | .error e => .error e

theorem collect_any {outcome : ResponseOutcome s.Val}
    (he : ∀ e data, outcome = .error e → e.data = some data → data.WellFormed)
    {members : Members} (cx : Context)
    (h : members.get? outcome.key.name = some outcome.encode) :
    collect Decoder.any members cx outcome.key = .ok outcome.raw := by
  cases outcome with
  | result a =>
    change members.get? "result" = _ at h
    refine map_eq_ok_iff.mpr ⟨s.encode a, ?_, rfl⟩
    rw [h]
    rfl
  | error e =>
    change members.get? "error" = _ at h
    refine map_eq_ok_iff.mpr ⟨e, ?_, rfl⟩
    rw [h]
    exact ResponseError.required_encode (fun data => he e data rfl) cx

end ResponseOutcome

theorem RequestMessage.decode_encode_any {params : Schema}
    (hnull : params.suppliesAbsent = true ∨ "null" ∉ params.kinds) (name method : String)
    (message : RequestMessage params.Val) :
    ∃ document, (codec name method params.codec).encode message = .ok document ∧
      document.get? "params" = params.given message.params ∧
      ∀ cx, Message.decode document cx =
        .ok (.request ⟨message.id, method, params.given message.params⟩) := by
  obtain ⟨target, htarget, hparams, frame⟩ := exists_encode hnull name method message
  exact ⟨.object target, htarget, hparams, fun cx =>
    Message.decode_eq_request_iff.mpr ⟨target, rfl, frame cx, hparams.symm⟩⟩

theorem NotificationMessage.decode_encode_any {params : Schema}
    (hnull : params.suppliesAbsent = true ∨ "null" ∉ params.kinds) (name method : String)
    (message : NotificationMessage params.Val) :
    ∃ document, (codec name method params.codec).encode message = .ok document ∧
      document.get? "params" = params.given message.params ∧
      ∀ cx, Message.decode document cx =
        .ok (.notification ⟨method, params.given message.params⟩) := by
  obtain ⟨target, htarget, hparams, frame⟩ := exists_encode hnull name method message
  exact ⟨.object target, htarget, hparams, fun cx =>
    Message.decode_eq_notification_iff.mpr ⟨target, rfl, frame cx, hparams.symm⟩⟩

theorem ResponseMessage.decode_encode_any {s : Schema} (name : String)
    (message : ResponseMessage s.Val)
    (he : ∀ e data, message.outcome = .error e → e.data = some data → data.WellFormed) :
    ∃ target : Members, (codec name s.codec).encode message = .ok (.object target) ∧
      target.get? message.outcome.key.name = some message.outcome.encode ∧
      OutcomeKey.of (.object target) = .ok message.outcome.key ∧
      ∀ cx, Message.decode (.object target) cx =
        .ok (.response ⟨message.id, message.outcome.raw⟩) := by
  obtain ⟨target, htarget, hget, frame⟩ := exists_encode name message
  refine ⟨target, htarget, hget, (frame (.root .strict)).outcome, fun cx =>
    Message.decode_eq_response_iff.mpr ⟨target, rfl, message.outcome.key, frame cx, ?_⟩⟩
  exact ResponseOutcome.collect_any he cx hget

namespace Protocol

theorem request_params {r : Request} (hr : r ∈ requests) :
    r.params.suppliesAbsent = true ∨ "null" ∉ r.params.kinds :=
  (WireType.faithful_params_iff.mp
    (WireType.all_faithful _ ((WireType.request_mem_all_iff _ r).mpr ⟨rfl, hr⟩))).2

theorem notification_params {n : Notification} (hn : n ∈ notifications) :
    n.params.suppliesAbsent = true ∨ "null" ∉ n.params.kinds :=
  (WireType.faithful_params_iff.mp
    (WireType.all_faithful _ ((WireType.notification_mem_all_iff _ n).mpr ⟨rfl, hn⟩))).2

end Protocol

/-- Every message of a declared method is written, and what it is written as is read, strictly or
not, as the message of its kind with its own identifier and method. Parameters are there exactly if
the method has any. A response has either its result, even if that is null, or its error, and not
both. No parameters and no result are too large or otherwise unfit for this. -/
theorem encode_valid_envelope :
    (∀ r ∈ Protocol.requests, ∀ message : RequestMessage r.params.Val, ∃ document params,
      r.codec.encode message = .ok document ∧ document.get? "params" = params ∧
      (r.params = .noParams → params = none) ∧
      (r.params ≠ .noParams → params = some (r.params.encode message.params)) ∧
      ∀ cx, Message.decode document cx = .ok (.request ⟨message.id, r.method, params⟩)) ∧
    (∀ n ∈ Protocol.notifications, ∀ message : NotificationMessage n.params.Val,
      ∃ document params,
        n.codec.encode message = .ok document ∧ document.get? "params" = params ∧
        (n.params = .noParams → params = none) ∧
        (n.params ≠ .noParams → params = some (n.params.encode message.params)) ∧
        ∀ cx, Message.decode document cx = .ok (.notification ⟨n.method, params⟩)) ∧
    (∀ r ∈ Protocol.requests, ∀ (id : Nullable NumberOrString) (a : r.result.Val), ∃ document,
      r.responseCodec.encode ⟨id, .result a⟩ = .ok document ∧
      document.get? "result" = some (r.result.encode a) ∧ document.get? "error" = none ∧
      ∀ cx, Message.decode document cx = .ok (.response ⟨id, .result (r.result.encode a)⟩)) ∧
    (∀ r ∈ Protocol.requests, ∀ (id : Nullable NumberOrString) (e : ResponseError),
      (∀ data, e.data = some data → data.WellFormed) → ∃ document,
        r.responseCodec.encode ⟨id, .error e⟩ = .ok document ∧
        document.get? "result" = none ∧ document.get? "error" = some (responseError.encode e) ∧
        ∀ cx, Message.decode document cx = .ok (.response ⟨id, .error e⟩)) := by
  refine ⟨fun r hr message => ?_, fun n hn message => ?_, fun r _ id a => ?_,
    fun r _ id e he => ?_⟩
  · obtain ⟨document, hencode, hparams, hread⟩ := RequestMessage.decode_encode_any
      (Protocol.request_params hr) r.requestType r.method message
    obtain ⟨hnone, hsome⟩ := Schema.given_eq message.params
    exact ⟨document, _, hencode, hparams, hnone, hsome, hread⟩
  · obtain ⟨document, hencode, hparams, hread⟩ := NotificationMessage.decode_encode_any
      (Protocol.notification_params hn) n.typeName n.method message
    obtain ⟨hnone, hsome⟩ := Schema.given_eq message.params
    exact ⟨document, _, hencode, hparams, hnone, hsome, hread⟩
  · obtain ⟨target, hencode, hresult, houtcome, hread⟩ := ResponseMessage.decode_encode_any
      (s := r.result) r.responseType ⟨id, .result a⟩ fun _ _ h => (by cases h)
    exact ⟨.object target, hencode, hresult, ((OutcomeKey.of_object_iff _ _).mp houtcome).2, hread⟩
  · obtain ⟨target, hencode, herror, houtcome, hread⟩ := ResponseMessage.decode_encode_any
      (s := r.result) r.responseType ⟨id, .error e⟩ fun _ data h => (by cases h; exact he data)
    exact ⟨.object target, hencode, ((OutcomeKey.of_object_iff _ _).mp houtcome).1, herror, hread⟩

theorem encode_valid_envelope_shutdown :
    (∃ document, Protocol.shutdown.codec.encode ⟨.number 1, ()⟩ = .ok document ∧
      document.get? "params" = none ∧
      Message.decode document (.root .strict) = .ok (.request ⟨.number 1, "shutdown", none⟩)) ∧
    (∃ document params, Protocol.hoverRequest.codec.encode
        ⟨.string "h", ("file:///a", ()), ((4294967295 : UInt32), (0 : UInt32), ()), none, ()⟩ =
          .ok document ∧
      Message.decode document (.root .strict) =
        .ok (.request ⟨.string "h", "textDocument/hover", some params⟩)) ∧
    (∃ document, Protocol.cancel.codec.encode ⟨.number 1, ()⟩ = .ok document ∧
      Message.decode document (.root .strict) = .ok (.notification ⟨"$/cancelRequest",
        some (.object [("id", .number (.integer 1))])⟩)) ∧
    (∃ document, Protocol.shutdown.responseCodec.encode ⟨.null, .result ()⟩ = .ok document ∧
      document.get? "result" = some .null ∧ document.get? "error" = none ∧
      Message.decode document (.root .strict) = .ok (.response ⟨.null, .result .null⟩)) ∧
    (Json.object [("a", .null), ("b", .bool true)]).WellFormed ∧
    ∃ document, Protocol.shutdown.responseCodec.encode ⟨.null, .error (ResponseError.make
        (-32603) "" (some (.object [("a", .null), ("b", .bool true)])))⟩ = .ok document ∧
      document.get? "result" = none ∧
      Message.decode document (.root .strict) = .ok (.response ⟨.null, .error (ResponseError.make
        (-32603) "" (some (.object [("a", .null), ("b", .bool true)])))⟩) := by
  obtain ⟨hrequest, hnotification, hresult, herror⟩ := encode_valid_envelope
  have hshutdown : Protocol.shutdown ∈ Protocol.requests := List.mem_iff_getElem?.mpr ⟨7, rfl⟩
  have hwf : (Json.object [("a", .null), ("b", .bool true)]).WellFormed := by decide
  refine ⟨?_, ?_, ?_, ?_, hwf, ?_⟩
  · obtain ⟨document, params, hencode, hparams, hnone, -, hread⟩ :=
      hrequest _ hshutdown ⟨.number 1, ()⟩
    rw [hnone rfl] at hparams hread
    exact ⟨document, hencode, hparams, hread _⟩
  · obtain ⟨document, params, hencode, -, -, hsome, hread⟩ :=
      hrequest Protocol.hoverRequest (List.mem_iff_getElem?.mpr ⟨1, rfl⟩)
        ⟨.string "h", ("file:///a", ()), ((4294967295 : UInt32), (0 : UInt32), ()), none, ()⟩
    rw [hsome fun h => (by cases h)] at hread
    exact ⟨document, _, hencode, hread _⟩
  · obtain ⟨document, params, hencode, -, -, hsome, hread⟩ :=
      hnotification Protocol.cancel (List.mem_iff_getElem?.mpr ⟨9, rfl⟩) ⟨.number 1, ()⟩
    rw [hsome fun h => (by cases h)] at hread
    exact ⟨document, hencode, hread _⟩
  · obtain ⟨document, hencode, hheld, hnone, hread⟩ := hresult _ hshutdown .null ()
    exact ⟨document, hencode, hheld, hnone, hread _⟩
  · obtain ⟨document, hencode, hnone, -, hread⟩ := herror _ hshutdown .null
      (ResponseError.make (-32603) "" (some (.object [("a", .null), ("b", .bool true)])))
      fun data hdata => (by cases hdata; exact hwf)
    exact ⟨document, hencode, hnone, hread _⟩

end LspWire
