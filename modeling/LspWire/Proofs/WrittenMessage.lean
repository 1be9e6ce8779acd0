import LspWire.Proofs.TypeKind
import LspWire.Proofs.TypedMessage

/-! Messages as they are written.
The object that a message is written as has the members of its frame and at most one more, which
holds the parameters or the outcome. In order it has the same frame, on whatever terms it is read.
A method has no parameters, or their encoding is never null and always written. -/

namespace LspWire

theorem Schema.sorted_encode (s : Schema) (x : s.Val) : (s.encode x).sorted = s.encode x :=
  Json.sorted_of_wellFormed _ (Json.wellFormed_sorted _)

theorem Codec.wellFormed_of_encode {α : Type} {c : Codec α} {a : α} {document : Json}
    (h : c.encode a = .ok document) : document.WellFormed := by
  obtain ⟨written, -, rfl⟩ := map_eq_ok_iff.mp h
  exact Json.wellFormed_sorted written

variable {cx : Context}

theorem NumberOrString.sorted_write (id : NumberOrString) : id.write.sorted = id.write := by
  cases id <;> rfl

theorem NumberOrString.write_of_required {id : NumberOrString} {held : Option Json}
    (h : FieldReader.required Decoder.numberOrString "id" held cx = .ok id) :
    held = some id.write := by
  obtain ⟨value, rfl, hid⟩ := FieldReader.required_eq_ok_of_present.mp h
  rw [(Decoder.numberOrString_decode_eq_ok_iff _ _ _).mp hid]

theorem NumberOrString.write_of_nullable {id : Nullable NumberOrString} {held : Option Json}
    (h : FieldReader.nullable Decoder.numberOrString "id" held cx = .ok id) :
    held = some (id.write NumberOrString.write) := by
  rcases FieldReader.nullable_eq_ok_iff.mp h with ⟨rfl, rfl⟩ | ⟨value, x, rfl, -, hx, rfl⟩
  · rfl
  · rw [(Decoder.numberOrString_decode_eq_ok_iff _ _ _).mp hx]
    rfl

theorem Message.names_paramsMember (params : Option Json) :
    Members.names (paramsMember params) = [] ∨
      Members.names (paramsMember params) = ["params"] := by
  cases params with
  | none => exact .inl rfl
  | some held => exact .inr rfl

theorem Message.names_written_sublist {front : Members} {names : List String}
    (hfront : front.names = names) (params : Option Json) :
    (Members.names (front ++ paramsMember params)).Sublist (names ++ ["params"]) := by
  rw [Members.names, List.map_append, ← Members.names, ← Members.names, hfront]
  refine List.Sublist.append_left ?_ names
  rcases names_paramsMember params with h | h <;> rw [h]
  exact List.nil_sublist _

theorem Message.params_notMem {names : List String} (hnodup : (names ++ ["params"]).Nodup) :
    "params" ∉ names := fun hm =>
  (List.nodup_append.mp hnodup).2.2 _ hm _ (List.mem_singleton_self _) rfl

theorem Message.exists_written (front : Members) (names : List String)
    (hfront : front.names = names) (hnodup : (names ++ ["params"]).Nodup) (params : Option Json) :
    ∃ target : Members, (Json.object (front ++ paramsMember params)).sorted = .object target ∧
      (∀ name ∈ names, target.get? name = (front.get? name).map Json.sorted) ∧
      target.get? "params" = params.map Json.sorted ∧
      ∀ name ∈ target.names, name ∈ names ++ ["params"] := by
  have hwritten := names_written_sublist hfront params
  obtain ⟨target, htarget, -, hget⟩ :=
    Json.sorted_object (front ++ paramsMember params) (hwritten.nodup hnodup)
  refine ⟨target, htarget, fun name hname => ?_, ?_, fun name hname => ?_⟩
  · rw [hget, Members.get?_append]
    have hsome := (Members.mem_names_iff front name).mp (hfront ▸ hname)
    obtain ⟨held, hheld⟩ := Option.isSome_iff_exists.mp hsome
    rw [hheld]
    rfl
  · have hnone : front.get? "params" = none := by
      rw [Members.get?_eq_none_iff, hfront]
      exact params_notMem hnodup
    rw [hget, Members.get?_append, hnone]
    cases params <;> rfl
  · rw [Members.mem_names_iff, hget, Option.isSome_map, ← Members.mem_names_iff] at hname
    exact hwritten.subset hname

theorem RequestFrame.exists_written (id : NumberOrString) (method : String) (params : Option Json) :
    ∃ target : Members, (Json.object (Message.version ++
        [("id", id.write), ("method", .string method)] ++ Message.paramsMember params)).sorted =
          .object target ∧
      target.get? "params" = params.map Json.sorted ∧ ∀ cx, RequestFrame target cx id method := by
  obtain ⟨target, htarget, hget, hparams, hnames⟩ := Message.exists_written
    (Message.version ++ [("id", id.write), ("method", .string method)])
    ["jsonrpc", "id", "method"] rfl (by decide) params
  simp only [List.forall_mem_cons] at hget
  obtain ⟨hversion, hid, hmethod, -⟩ := hget
  refine ⟨target, htarget, hparams, fun cx => ⟨hversion, ?_, hmethod, fun _ => hnames⟩⟩
  have hid' : target.get? "id" = some id.write := hid.trans (congrArg some id.sorted_write)
  rw [hid']
  exact (Decoder.numberOrString_decode_eq_ok_iff _ _ id).mpr rfl

theorem NotificationFrame.exists_written (method : String) (params : Option Json) :
    ∃ target : Members, (Json.object (Message.version ++ [("method", .string method)] ++
        Message.paramsMember params)).sorted = .object target ∧
      target.get? "params" = params.map Json.sorted ∧
        ∀ cx, NotificationFrame target cx method := by
  obtain ⟨target, htarget, hget, hparams, hnames⟩ := Message.exists_written
    (Message.version ++ [("method", .string method)]) ["jsonrpc", "method"] rfl (by decide) params
  simp only [List.forall_mem_cons] at hget
  obtain ⟨hversion, hmethod, -⟩ := hget
  have hid : target.get? "id" = none := by
    rw [Members.get?_eq_none_iff]
    exact fun hm => absurd (hnames "id" hm) (by decide)
  exact ⟨target, htarget, hparams, fun cx => ⟨hversion, hid, hmethod, fun _ => hnames⟩⟩

theorem ResponseFrame.exists_written (id : Nullable NumberOrString) (key : OutcomeKey)
    (outcome : Json) :
    ∃ target : Members, (Json.object (Message.version ++
        [("id", id.write NumberOrString.write), (key.name, outcome)])).sorted = .object target ∧
      target.get? key.name = some outcome.sorted ∧ ∀ cx, ResponseFrame target cx id key := by
  have hnodup : ["jsonrpc", "id", key.name].Nodup := by cases key <;> decide
  obtain ⟨target, htarget, -, hget⟩ := Json.sorted_object (Message.version ++
    [("id", id.write NumberOrString.write), (key.name, outcome)]) hnodup
  have hid : target.get? "id" = some (id.write NumberOrString.write) := by
    rw [hget]
    cases id with
    | null => rfl
    | value n => exact congrArg some n.sorted_write
  have hkey : target.get? key.name = some outcome.sorted := by
    rw [hget]
    cases key <;> rfl
  have hnames : ∀ name ∈ target.names, name ∈ ["jsonrpc", "id", key.name] := fun name hname => by
    rwa [Members.mem_names_iff, hget, Option.isSome_map, ← Members.mem_names_iff] at hname
  refine ⟨target, htarget, hkey, fun cx => ⟨hget "jsonrpc", ?_, ?_, ?_, fun _ => hnames⟩⟩
  · rw [hid]
    refine FieldReader.nullable_eq_ok_iff.mpr ?_
    cases id with
    | null => exact .inl ⟨rfl, rfl⟩
    | value n =>
      refine .inr ⟨n.write, n, rfl, ?_,
        (Decoder.numberOrString_decode_eq_ok_iff _ _ n).mpr rfl, rfl⟩
      cases n <;> exact fun h => (by cases h)
  · rw [Members.get?_eq_none_iff]
    intro hm
    have hmem := hnames "method" hm
    cases key <;> exact absurd hmem (by decide)
  · rw [OutcomeKey.of_object_iff]
    cases key with
    | result =>
      refine ⟨by rw [hget]; rfl, ?_⟩
      rw [Members.get?_eq_none_iff]
      exact fun hm => absurd (hnames "error" hm) (by decide)
    | error =>
      refine ⟨?_, by rw [hget]; rfl⟩
      rw [Members.get?_eq_none_iff]
      exact fun hm => absurd (hnames "result" hm) (by decide)

def Schema.given : (params : Schema) → params.Val → Option Json
  | .noParams, _ => none
  | params, p => some (params.encode p)

namespace Schema

variable {params : Schema}

theorem given_of_suppliesAbsent (h : params.suppliesAbsent = true) (p : params.Val) :
    params.given p = none := by
  cases params with
  | noParams => rfl
  | _ => cases h

theorem given_of_not_suppliesAbsent (h : params.suppliesAbsent = false) (p : params.Val) :
    params.given p = some (params.encode p) := by
  cases params with
  | noParams => cases h
  | _ => rfl

theorem sorted_given (p : params.Val) : (params.given p).map Json.sorted = params.given p := by
  cases habsent : params.suppliesAbsent with
  | true => rw [given_of_suppliesAbsent habsent]; rfl
  | false => rw [given_of_not_suppliesAbsent habsent, Option.map_some, sorted_encode]

theorem writeParams_eq (hnull : params.suppliesAbsent = true ∨ "null" ∉ params.kinds)
    (p : params.Val) :
    writeParams params.codec p = .ok (Message.paramsMember (params.given p)) := by
  have hwrite : writeParams params.codec p = .ok (if (params.encode p).isNull then []
      else [("params", params.encode p)]) := rfl
  cases habsent : params.suppliesAbsent with
  | true =>
    cases params with
    | noParams => rfl
    | _ => cases habsent
  | false =>
    have hkinds := hnull.resolve_left (by rw [habsent]; exact Bool.false_ne_true)
    have hne := encode_ne_null hkinds p
    rw [given_of_not_suppliesAbsent habsent, hwrite, if_neg]
    · rfl
    · cases h : params.encode p with
      | null => exact absurd h hne
      | _ => exact Bool.false_ne_true

end Schema

theorem RequestMessage.exists_encode {params : Schema}
    (hnull : params.suppliesAbsent = true ∨ "null" ∉ params.kinds) (name method : String)
    (message : RequestMessage params.Val) :
    ∃ target : Members, (codec name method params.codec).encode message = .ok (.object target) ∧
      target.get? "params" = params.given message.params ∧
        ∀ cx, RequestFrame target cx message.id method := by
  obtain ⟨target, htarget, hparams, frame⟩ :=
    RequestFrame.exists_written message.id method (params.given message.params)
  refine ⟨target, ?_, hparams.trans (Schema.sorted_given _), frame⟩
  change (writeParams params.codec message.params >>= _).map Json.sorted = _
  rw [Schema.writeParams_eq hnull, ← htarget]
  rfl

theorem NotificationMessage.exists_encode {params : Schema}
    (hnull : params.suppliesAbsent = true ∨ "null" ∉ params.kinds) (name method : String)
    (message : NotificationMessage params.Val) :
    ∃ target : Members, (codec name method params.codec).encode message = .ok (.object target) ∧
      target.get? "params" = params.given message.params ∧
        ∀ cx, NotificationFrame target cx method := by
  obtain ⟨target, htarget, hparams, frame⟩ :=
    NotificationFrame.exists_written method (params.given message.params)
  refine ⟨target, ?_, hparams.trans (Schema.sorted_given _), frame⟩
  change (writeParams params.codec message.params >>= _).map Json.sorted = _
  rw [Schema.writeParams_eq hnull, ← htarget]
  rfl

namespace ResponseOutcome

def key {R : Type} : ResponseOutcome R → OutcomeKey
  | result _ => .result
  | error _ => .error

def encode {s : Schema} : ResponseOutcome s.Val → Json
  | .result a => s.encode a
  | .error e => responseError.encode e

end ResponseOutcome

theorem ResponseMessage.exists_encode {s : Schema} (name : String)
    (message : ResponseMessage s.Val) :
    ∃ target : Members, (codec name s.codec).encode message = .ok (.object target) ∧
      target.get? message.outcome.key.name = some message.outcome.encode ∧
        ∀ cx, ResponseFrame target cx message.id message.outcome.key := by
  obtain ⟨id, outcome⟩ := message
  cases outcome with
  | result a =>
    obtain ⟨target, htarget, hget, frame⟩ := ResponseFrame.exists_written id .result (s.write a)
    exact ⟨target, congrArg Except.ok htarget, hget, frame⟩
  | error e =>
    obtain ⟨target, htarget, hget, frame⟩ :=
      ResponseFrame.exists_written id .error (responseError.write e)
    exact ⟨target, congrArg Except.ok htarget, hget, frame⟩

end LspWire
