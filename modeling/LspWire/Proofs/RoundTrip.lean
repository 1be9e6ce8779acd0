import LspWire.Proofs.CanonicalMessage
import LspWire.Proofs.FixtureVerdict
import LspWire.Proofs.ParsedDocument
import LspWire.Proofs.TrimmedMessage

/-! The round trip of a fixture.
Every type of the protocol reads its canonical values back from their encodings, and reads no
others; so the verdict on a fixture does not depend on whether its value also has to survive
encoding and decoding. -/

namespace LspWire

theorem Schema.everywhere_of_required {p : (s : Schema) → s.Val → Prop} (hp : HoldsOfRead p)
    {params : Schema} (hs : params.faithful = true) (ho : params.orderly = true)
    {members : Members} (hmembers : (Json.object members).WellFormed) {name : String} {cx : Context}
    {x : params.Val}
    (h : FieldReader.required params.decoder name (members.get? name) cx = .ok x) :
    params.Everywhere p x := by
  cases hheld : members.get? name with
  | some held =>
    rw [hheld] at h
    exact everywhere_of_decode hp params hs ho (hmembers.of_get? hheld) h
  | none =>
    rw [hheld] at h
    cases params with
    | noParams => exact hp .noParams .null cx () rfl rfl trivial rfl
    | _ => cases h

theorem ResponseOutcome.everywhere_of_collect {p : (s : Schema) → s.Val → Prop}
    (hp : Schema.HoldsOfRead p) {s : Schema} (hs : s.faithful = true) (ho : s.orderly = true)
    {members : Members} (hmembers : (Json.object members).WellFormed) {cx : Context}
    {key : OutcomeKey} {outcome : ResponseOutcome s.Val}
    (h : collect s.decoder members cx key = .ok outcome) : outcome.Everywhere p s := by
  cases key with
  | result =>
    obtain ⟨a, ha, rfl⟩ := map_eq_ok_iff.mp h
    exact Schema.everywhere_of_required hp hs ho hmembers ha
  | error =>
    obtain ⟨e, he, rfl⟩ := map_eq_ok_iff.mp h
    exact Schema.everywhere_of_required hp (by decide) (by decide) hmembers he

namespace WireType

def Everywhere (p : (s : Schema) → s.Val → Prop) : (t : WireType) → t.Value → Prop
  | plain s => s.Everywhere p
  | message => Message.Everywhere p
  | request r => fun (m : RequestMessage r.params.Val) => r.params.Everywhere p m.params
  | response r => fun (m : ResponseMessage r.result.Val) => m.outcome.Everywhere p r.result
  | notification n => fun (m : NotificationMessage n.params.Val) => n.params.Everywhere p m.params

/-- Maps are in order in every part of the value, and so is what is kept as JSON. -/
def Valid (t : WireType) (x : t.Value) : Prop := t.Everywhere Schema.ValidPart x

def Canonical (t : WireType) (x : t.Value) : Prop := t.Everywhere Schema.CanonicalPart x

def orderly : WireType → Bool
  | plain s => s.orderly
  | message => true
  | request r => r.params.orderly
  | response r => r.result.orderly
  | notification n => n.params.orderly

theorem all_orderly : ∀ entry ∈ all, entry.2.orderly = true := by decide +kernel

theorem everywhere_of_decode {p : (s : Schema) → s.Val → Prop} (hp : Schema.HoldsOfRead p)
    {t : WireType} (ht : t.faithful = true) (ho : t.orderly = true) {value : Json}
    (hvalue : value.WellFormed) {cx : Context} {x : t.Value}
    (h : t.codec.decode value cx = .ok x) : t.Everywhere p x := by
  cases t with
  | plain s => exact Schema.everywhere_of_decode hp s ht ho hvalue h
  | message =>
    cases x with
    | request raw =>
      obtain ⟨members, rfl, -, hparams⟩ := Message.decode_eq_request_iff.mp h
      intro held hheld
      rw [hparams] at hheld
      exact hp .any held cx held rfl rfl (hvalue.of_get? hheld) rfl
    | notification raw =>
      obtain ⟨members, rfl, -, hparams⟩ := Message.decode_eq_notification_iff.mp h
      intro held hheld
      rw [hparams] at hheld
      exact hp .any held cx held rfl rfl (hvalue.of_get? hheld) rfl
    | response raw =>
      obtain ⟨members, rfl, key, -, houtcome⟩ := Message.decode_eq_response_iff.mp h
      exact ResponseOutcome.everywhere_of_collect (s := .any) hp rfl rfl hvalue houtcome
  | request r =>
    obtain ⟨members, rfl, -, hparams⟩ := RequestMessage.decode_eq_ok_iff.mp h
    exact Schema.everywhere_of_required hp (faithful_params_iff.mp ht).1 ho hvalue hparams
  | response r =>
    obtain ⟨members, rfl, key, -, houtcome⟩ := ResponseMessage.decode_eq_ok_iff.mp h
    exact ResponseOutcome.everywhere_of_collect hp ht ho hvalue houtcome
  | notification n =>
    obtain ⟨members, rfl, -, hparams⟩ := NotificationMessage.decode_eq_ok_iff.mp h
    exact Schema.everywhere_of_required hp (faithful_params_iff.mp ht).1 ho hvalue hparams

section

variable {t : WireType} {value : Json} {cx : Context} {x : t.Value}

theorem valid_of_decode (ht : t.faithful = true) (ho : t.orderly = true) (hvalue : value.WellFormed)
    (h : t.codec.decode value cx = .ok x) : t.Valid x :=
  everywhere_of_decode (fun s _ _ _ _ _ hvalue h => s.validPart_of_decode hvalue h) ht ho hvalue h

theorem canonical_of_decode (ht : t.faithful = true) (ho : t.orderly = true)
    (hvalue : value.WellFormed) (h : t.codec.decode value cx = .ok x) : t.Canonical x :=
  everywhere_of_decode (fun s _ _ _ hs ho _ h => s.canonicalPart_of_decode hs ho h) ht ho hvalue h

end

theorem decode_encode {t : WireType} (ht : t.faithful = true) (ho : t.orderly = true) {x : t.Value}
    (hvalid : t.Valid x) (hcanonical : t.Canonical x) :
    ∃ document, t.codec.encode x = .ok document ∧
      ∀ cx, t.codec.decode document cx = .ok x := by
  cases t with
  | plain s => exact ⟨s.encode x, rfl, fun cx => s.decode_encode ht ho x hvalid hcanonical cx⟩
  | message => exact Message.decode_encode hvalid hcanonical
  | request r =>
    obtain ⟨hparams, hnull⟩ := faithful_params_iff.mp ht
    exact RequestMessage.decode_encode hparams ho hnull hvalid hcanonical
  | response r => exact ResponseMessage.decode_encode ht ho hvalid hcanonical
  | notification n =>
    obtain ⟨hparams, hnull⟩ := faithful_params_iff.mp ht
    exact NotificationMessage.decode_encode hparams ho hnull hvalid hcanonical

end WireType

theorem ResponseOutcome.exists_write {R : Type} (write : R → Json) (outcome : ResponseOutcome R) :
    ∃ member, outcome.write (fun a => .ok (write a)) = .ok member := by
  cases outcome <;> exact ⟨_, rfl⟩

namespace WireType

theorem exists_encode (t : WireType) (x : t.Value) :
    ∃ document, t.codec.encode x = .ok document := by
  cases t with
  | plain s => exact ⟨_, rfl⟩
  | message =>
    cases x with
    | request raw => exact ⟨_, rfl⟩
    | notification raw => exact ⟨_, rfl⟩
    | response raw =>
      obtain ⟨member, hmember⟩ := ResponseOutcome.exists_write id raw.outcome
      refine ⟨(Json.object (Message.version ++
        [("id", raw.id.write NumberOrString.write), member])).sorted, ?_⟩
      change (raw.outcome.write .ok >>= _).map Json.sorted = _
      change raw.outcome.write .ok = _ at hmember
      rw [hmember]
      rfl
  | request r => exact ⟨_, rfl⟩
  | response r =>
    obtain ⟨member, hmember⟩ := ResponseOutcome.exists_write r.result.write
      (x : ResponseMessage r.result.Val).outcome
    refine ⟨(Json.object (Message.version ++
      [("id", (x : ResponseMessage r.result.Val).id.write NumberOrString.write),
        member])).sorted, ?_⟩
    change ((x : ResponseMessage r.result.Val).outcome.write (fun a => .ok (r.result.write a)) >>=
      _).map Json.sorted = _
    rw [hmember]
    rfl
  | notification n => exact ⟨_, rfl⟩

theorem decode_encode_iff {t : WireType} (ht : t.faithful = true) (ho : t.orderly = true)
    {x : t.Value} (hvalid : t.Valid x) :
    ∃ document, t.codec.encode x = .ok document ∧
      ∀ cx, t.codec.decode document cx = .ok x ↔ t.Canonical x := by
  obtain ⟨document, hdocument⟩ := t.exists_encode x
  refine ⟨document, hdocument, fun cx => ⟨fun h => ?_, fun hcanonical => ?_⟩⟩
  · exact canonical_of_decode ht ho (Codec.wellFormed_of_encode hdocument) h
  · obtain ⟨again, hagain, hread⟩ := decode_encode ht ho hvalid hcanonical
    rw [hdocument] at hagain
    cases hagain
    exact hread cx

theorem readText_binding (t : WireType) (content : Text.Octets) (options : DecodeOptions) :
    t.binding.readText content options = .finished (t.codec.decodeText content options) :=
  t.crashFree_binding.readText_eq content options

theorem survives {t : WireType} (ht : t.faithful = true) (ho : t.orderly = true) {x : t.Value}
    (hvalid : t.Valid x) (hcanonical : t.Canonical x) (options : DecodeOptions) :
    t.binding.Survives options x := by
  obtain ⟨document, hencode, hread⟩ := decode_encode ht ho hvalid hcanonical
  exact ⟨document, x, document, hencode, hread (.root options), hencode, document.same_self⟩

theorem evaluateWith_roundTrip {t : WireType} (ht : t.faithful = true) (ho : t.orderly = true)
    (fixture : Fixture) (content : Text.Octets) (options : DecodeOptions) :
    evaluateWith t.binding fixture content options true =
      evaluateWith t.binding fixture content options false := by
  unfold evaluateWith
  rw [readText_binding]
  cases hread : t.codec.decodeText content options with
  | error e => cases fixture.name.expected <;> rfl
  | ok x =>
    obtain ⟨value, hvalue, hdecode⟩ : ∃ value : Json, value.WellFormed ∧
        t.codec.decode value (.root options) = .ok x := by
      unfold Codec.decodeText at hread
      cases hparse : Json.parse content with
      | error fault => rw [hparse] at hread; cases hread
      | ok value =>
        rw [hparse] at hread
        exact ⟨value, Json.wellFormed_of_parse hparse, hread⟩
    have hsurvives := survives ht ho (valid_of_decode ht ho hvalue hdecode)
      (canonical_of_decode ht ho hvalue hdecode) options
    cases fixture.name.expected with
    | reject => rfl
    | accept =>
      change (t.binding.roundTripFault? options x >>= _) = _
      rw [hsurvives.roundTripFault_eq_none t.crashFree_binding]
      rfl

theorem evaluateWith_ne_roundTripMismatch (b : Binding) (fixture : Fixture) (content : Text.Octets)
    (options : DecodeOptions) (type id detail : String) :
    evaluateWith b fixture content options false ≠
      .finished (.fail (.roundTripMismatch type id detail)) := by
  unfold evaluateWith
  cases b.readText content options with
  | crashed text => exact fun h => (by cases h)
  | finished outcome =>
    cases outcome <;> cases fixture.name.expected <;> exact fun h => (by cases h)

end WireType

/-- The types of the protocol are those listed. A value of any of them is read from its own
encoding, strictly or not, exactly if it is canonical, and whatever is read is canonical. So the
verdict on a fixture is the same with a round trip and without, and never a failed round trip. -/
theorem round_trip_iff_canonical :
    (∀ name b, TypeRegistry.protocol.get? name = some b ↔
      ∃ t, (name, t) ∈ WireType.all ∧ b = t.binding) ∧
    (∀ name t, (name, t) ∈ WireType.all → ∀ x : t.Value, t.Valid x →
      ∃ document, t.codec.encode x = .ok document ∧
        ∀ options, t.codec.decode document (.root options) = .ok x ↔ t.Canonical x) ∧
    (∀ name t, (name, t) ∈ WireType.all → ∀ value : Json, value.WellFormed → ∀ options x,
      t.codec.decode value (.root options) = .ok x → t.Valid x ∧ t.Canonical x) ∧
    (∀ fixture content options, evaluate TypeRegistry.protocol fixture content options true =
      evaluate TypeRegistry.protocol fixture content options false) ∧
    (∀ fixture content options roundTrip type id detail,
      evaluate TypeRegistry.protocol fixture content options roundTrip ≠
        .finished (.fail (.roundTripMismatch type id detail))) := by
  have hsame : ∀ fixture content options,
      evaluate TypeRegistry.protocol fixture content options true =
        evaluate TypeRegistry.protocol fixture content options false := by
    intro fixture content options
    unfold evaluate
    cases hb : TypeRegistry.protocol.get? fixture.name.typeName with
    | none => rfl
    | some b =>
      obtain ⟨t, ht, rfl⟩ := (TypeRegistry.get?_protocol_iff _ b).mp hb
      exact WireType.evaluateWith_roundTrip (WireType.all_faithful _ ht) (WireType.all_orderly _ ht)
        fixture content options
  refine ⟨TypeRegistry.get?_protocol_iff, ?_, ?_, hsame, ?_⟩
  · intro name t ht x hvalid
    obtain ⟨document, hencode, hread⟩ :=
      WireType.decode_encode_iff (WireType.all_faithful _ ht) (WireType.all_orderly _ ht) hvalid
    exact ⟨document, hencode, fun options => hread (.root options)⟩
  · intro name t ht value hvalue options x h
    have hfaithful := WireType.all_faithful _ ht
    have horderly := WireType.all_orderly _ ht
    exact ⟨WireType.valid_of_decode hfaithful horderly hvalue h,
      WireType.canonical_of_decode hfaithful horderly hvalue h⟩
  · intro fixture content options roundTrip type id detail
    have hfalse : evaluate TypeRegistry.protocol fixture content options roundTrip =
        evaluate TypeRegistry.protocol fixture content options false := by
      cases roundTrip with
      | true => exact hsame fixture content options
      | false => rfl
    rw [hfalse]
    unfold evaluate
    cases TypeRegistry.protocol.get? fixture.name.typeName with
    | none => exact fun h => (by cases h)
    | some b =>
      exact WireType.evaluateWith_ne_roundTripMismatch b fixture content options type id detail

theorem round_trip_iff_canonical_links :
    (¬(WireType.plain Protocol.definitionResult).Canonical
        (Sum.inr (Sum.inl ([] : List Protocol.locationLink.Val))) ∧
      ∃ document, (WireType.plain Protocol.definitionResult).codec.encode
          (Sum.inr (Sum.inl ([] : List Protocol.locationLink.Val))) = .ok document ∧
        (WireType.plain Protocol.definitionResult).codec.decode document (.root .strict) ≠
          .ok (Sum.inr (Sum.inl ([] : List Protocol.locationLink.Val)))) ∧
    (WireType.plain Protocol.definitionResult).codec.decode (.array []) (.root .permissive) =
        .ok (Sum.inl (Sum.inr (Sum.inl ([] : List Protocol.location.Val)))) ∧
      (WireType.plain Protocol.definitionResult).Canonical
        (Sum.inl (Sum.inr (Sum.inl ([] : List Protocol.location.Val)))) := by
  have hmem : ("DefinitionResult", WireType.plain Protocol.definitionResult) ∈ WireType.all :=
    List.mem_iff_getElem?.mpr ⟨39, rfl⟩
  have hcanonical : ¬(WireType.plain Protocol.definitionResult).Canonical
      (Sum.inr (Sum.inl ([] : List Protocol.locationLink.Val))) := fun h => h.1 ⟨rfl, rfl⟩
  obtain ⟨document, hencode, hread⟩ := round_trip_iff_canonical.2.1 _ _ hmem
    (Sum.inr (Sum.inl ([] : List Protocol.locationLink.Val)))
    ⟨trivial, trivial, fun _ hx => (by cases hx)⟩
  have hempty : (WireType.plain Protocol.definitionResult).codec.decode (.array [])
      (.root .permissive) = .ok (Sum.inl (Sum.inr (Sum.inl ([] : List Protocol.location.Val)))) :=
    rfl
  have hheld := round_trip_iff_canonical.2.2.1 _ _ hmem (.array []) trivial .permissive _ hempty
  exact ⟨⟨hcanonical, document, hencode, fun h => hcanonical ((hread .strict).mp h)⟩, hempty,
    hheld.2⟩

end LspWire
