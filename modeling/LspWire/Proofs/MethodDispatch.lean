import LspWire.Proofs.MessageFault
import LspWire.Proofs.MessageRecord
import LspWire.Registry.Methods

/-! Messages by method, for every sequence of registrations.
The first reading fixes the frame of a message, so the second, with the types of the method, can
only fail in the parameters. The table of each kind holds what was registered last for a method. -/

namespace LspWire

/-- One call that adds a method to a registry. -/
inductive Registration where
  | request (r : Request)
  | notification (n : Notification)

namespace Registration

def request? : Registration → Option Request
  | request r => some r
  | notification _ => none

def notification? : Registration → Option Notification
  | request _ => none
  | notification n => some n

end Registration

def lastRequest? (registrations : List Registration) (method : String) : Option Request :=
  ((registrations.filterMap Registration.request?).filter fun r => r.method == method).getLast?

def lastNotification? (registrations : List Registration) (method : String) :
    Option Notification :=
  ((registrations.filterMap Registration.notification?).filter fun n => n.method == method).getLast?

theorem method_of_lastRequest? {registrations : List Registration} {method : String} {r : Request}
    (h : lastRequest? registrations method = some r) : r.method = method :=
  beq_iff_eq.mp (List.mem_filter.mp (List.mem_of_getLast? h)).2

theorem method_of_lastNotification? {registrations : List Registration} {method : String}
    {n : Notification} (h : lastNotification? registrations method = some n) : n.method = method :=
  beq_iff_eq.mp (List.mem_filter.mp (List.mem_of_getLast? h)).2

namespace MethodRegistry

def add (registry : MethodRegistry) : Registration → MethodRegistry
  | .request r => registry.registerRequest r
  | .notification n => registry.registerNotification n

def ofRegistrations (registrations : List Registration) : MethodRegistry :=
  registrations.foldl add .empty

theorem requests_foldl_add (registry : MethodRegistry) (registrations : List Registration) :
    (registrations.foldl add registry).requests = registry.requests.insertAll
      ((registrations.filterMap Registration.request?).map fun r => (r.method, r)) := by
  induction registrations generalizing registry with
  | nil => rfl
  | cons registration rest ih =>
    rw [List.foldl_cons, ih]
    cases registration <;> rfl

theorem notifications_foldl_add (registry : MethodRegistry) (registrations : List Registration) :
    (registrations.foldl add registry).notifications = registry.notifications.insertAll
      ((registrations.filterMap Registration.notification?).map fun n => (n.method, n)) := by
  induction registrations generalizing registry with
  | nil => rfl
  | cons registration rest ih =>
    rw [List.foldl_cons, ih]
    cases registration <;> rfl

theorem get?_requests (registrations : List Registration) (method : String) :
    (ofRegistrations registrations).requests.get? method = lastRequest? registrations method := by
  rw [ofRegistrations, requests_foldl_add]
  exact NameTable.get?_insertAll_map Request.method _ method

theorem get?_notifications (registrations : List Registration) (method : String) :
    (ofRegistrations registrations).notifications.get? method =
      lastNotification? registrations method := by
  rw [ofRegistrations, notifications_foldl_add]
  exact NameTable.get?_insertAll_map Notification.method _ method

end MethodRegistry

namespace MethodRegistry

/-- The second reading, with the types of the method. -/
def dispatch (registry : MethodRegistry) (value : Json) (cx : Context) :
    Message → Except DecodeError Incoming
  | .request raw => do
    let r ← lookup registry.requests raw.method
    return .request r (← r.codec.decode value cx)
  | .notification raw => do
    let n ← lookup registry.notifications raw.method
    return .notification n (← n.codec.decode value cx)
  | .response raw => return .response raw

theorem decode_eq_bind (registry : MethodRegistry) (value : Json) (options : DecodeOptions) :
    registry.decode value options =
      Message.decode value (.root options) >>= registry.dispatch value (.root options) := by
  refine congrArg (Message.decode value (.root options) >>= ·) (funext fun message => ?_)
  cases message <;> rfl

theorem decode_of_message (registry : MethodRegistry) {value : Json} {options : DecodeOptions}
    {message : Message} (h : Message.decode value (.root options) = .ok message) :
    registry.decode value options = registry.dispatch value (.root options) message := by
  rw [decode_eq_bind, h]
  rfl

theorem lookup_eq_ok_iff {β : Type} {table : NameTable β} {method : String} {entry : β} :
    lookup table method = .ok entry ↔ table.get? method = some entry := by
  unfold lookup
  cases table.get? method with
  | none => exact ⟨fun h => (by cases h), fun h => (by cases h)⟩
  | some held => exact ⟨fun h => (by cases h; rfl), fun h => (by cases h; rfl)⟩

theorem lookup_eq_error_iff {β : Type} {table : NameTable β} {method : String} {e : DecodeError} :
    lookup table method = .error e ↔ table.get? method = none ∧ e = .unknownMethod method := by
  unfold lookup
  cases table.get? method with
  | none => exact ⟨fun h => (by cases h; exact ⟨rfl, rfl⟩), fun ⟨_, h⟩ => (by rw [h])⟩
  | some held => exact ⟨fun h => (by cases h), fun ⟨h, _⟩ => (by cases h)⟩

variable {registrations : List Registration} {value : Json} {options : DecodeOptions}

theorem decode_eq_request_iff {r : Request} {message : RequestMessage r.params.Val} :
    (ofRegistrations registrations).decode value options = .ok (.request r message) ↔
      lastRequest? registrations r.method = some r ∧
        r.codec.decode value (.root options) = .ok message := by
  rw [decode_eq_bind, bind_eq_ok_iff]
  constructor
  · rintro ⟨raw, hraw, h⟩
    cases raw with
    | request raw =>
      obtain ⟨found, hfound, h⟩ := bind_eq_ok_iff.mp h
      obtain ⟨read, hread, h⟩ := bind_eq_ok_iff.mp h
      cases h
      rw [lookup_eq_ok_iff, get?_requests] at hfound
      rw [method_of_lastRequest? hfound]
      exact ⟨hfound, hread⟩
    | notification raw =>
      obtain ⟨found, hfound, h⟩ := bind_eq_ok_iff.mp h
      obtain ⟨read, hread, h⟩ := bind_eq_ok_iff.mp h
      cases h
    | response raw => cases h
  · rintro ⟨hlast, hread⟩
    obtain ⟨given, hraw, -⟩ := RequestMessage.decode_eq_ok_iff_message.mp hread
    refine ⟨_, hraw, bind_eq_ok_iff.mpr ⟨r, ?_, bind_eq_ok_iff.mpr ⟨message, hread, rfl⟩⟩⟩
    rw [lookup_eq_ok_iff, get?_requests]
    exact hlast

theorem decode_eq_notification_iff {n : Notification} {message : NotificationMessage n.params.Val} :
    (ofRegistrations registrations).decode value options = .ok (.notification n message) ↔
      lastNotification? registrations n.method = some n ∧
        n.codec.decode value (.root options) = .ok message := by
  rw [decode_eq_bind, bind_eq_ok_iff]
  constructor
  · rintro ⟨raw, hraw, h⟩
    cases raw with
    | request raw =>
      obtain ⟨found, hfound, h⟩ := bind_eq_ok_iff.mp h
      obtain ⟨read, hread, h⟩ := bind_eq_ok_iff.mp h
      cases h
    | notification raw =>
      obtain ⟨found, hfound, h⟩ := bind_eq_ok_iff.mp h
      obtain ⟨read, hread, h⟩ := bind_eq_ok_iff.mp h
      cases h
      rw [lookup_eq_ok_iff, get?_notifications] at hfound
      rw [method_of_lastNotification? hfound]
      exact ⟨hfound, hread⟩
    | response raw => cases h
  · rintro ⟨hlast, hread⟩
    obtain ⟨given, hraw, -⟩ := NotificationMessage.decode_eq_ok_iff_message.mp hread
    refine ⟨_, hraw, bind_eq_ok_iff.mpr ⟨n, ?_, bind_eq_ok_iff.mpr ⟨message, hread, rfl⟩⟩⟩
    rw [lookup_eq_ok_iff, get?_notifications]
    exact hlast

theorem decode_eq_response_iff (registry : MethodRegistry) {raw : RawResponse} :
    registry.decode value options = .ok (.response raw) ↔
      Message.decode value (.root options) = .ok (.response raw) := by
  rw [decode_eq_bind, bind_eq_ok_iff]
  constructor
  · rintro ⟨message, hmessage, h⟩
    cases message with
    | request raw =>
      obtain ⟨_, -, h⟩ := bind_eq_ok_iff.mp h
      obtain ⟨_, -, h⟩ := bind_eq_ok_iff.mp h
      cases h
    | notification raw =>
      obtain ⟨_, -, h⟩ := bind_eq_ok_iff.mp h
      obtain ⟨_, -, h⟩ := bind_eq_ok_iff.mp h
      cases h
    | response raw' => cases h; exact hmessage
  · exact fun h => ⟨_, h, rfl⟩

theorem paramsFault_of_request {raw : RawRequest}
    (hraw : Message.decode value (.root options) = .ok (.request raw)) {r : Request}
    (hmethod : r.method = raw.method) {e : DecodeError}
    (h : r.codec.decode value (.root options) = .error e) :
    ParamsFault r.params raw.params (.root options) e := by
  obtain ⟨members, rfl, frame, hparams⟩ := Message.decode_eq_request_iff.mp hraw
  rw [← hmethod] at frame
  change RequestMessage.decode r.method r.params.decoder (.object members) (.root options) = _ at h
  rw [RequestMessage.decode_of_frame frame, map_eq_error_iff, ← hparams] at h
  exact .of_required h

theorem paramsFault_of_notification {raw : RawNotification}
    (hraw : Message.decode value (.root options) = .ok (.notification raw)) {n : Notification}
    (hmethod : n.method = raw.method) {e : DecodeError}
    (h : n.codec.decode value (.root options) = .error e) :
    ParamsFault n.params raw.params (.root options) e := by
  obtain ⟨members, rfl, frame, hparams⟩ := Message.decode_eq_notification_iff.mp hraw
  rw [← hmethod] at frame
  change NotificationMessage.decode n.method n.params.decoder (.object members)
    (.root options) = _ at h
  rw [NotificationMessage.decode_of_frame frame, map_eq_error_iff, ← hparams] at h
  exact .of_required h

theorem decode_error_of_request {raw : RawRequest}
    (hraw : Message.decode value (.root options) = .ok (.request raw)) {r : Request}
    (hr : lastRequest? registrations raw.method = some r) {e : DecodeError}
    (h : (ofRegistrations registrations).decode value options = .error e) :
    ParamsFault r.params raw.params (.root options) e := by
  rw [decode_of_message _ hraw] at h
  rcases bind_eq_error_iff.mp h with h | ⟨found, hfound, h⟩
  · rw [lookup_eq_error_iff, get?_requests, hr] at h
    cases h.1
  · rw [lookup_eq_ok_iff, get?_requests, hr] at hfound
    cases hfound
    rcases bind_eq_error_iff.mp h with h | ⟨_, -, h⟩
    · exact paramsFault_of_request hraw (method_of_lastRequest? hr) h
    · cases h

theorem decode_error_of_notification {raw : RawNotification}
    (hraw : Message.decode value (.root options) = .ok (.notification raw)) {n : Notification}
    (hn : lastNotification? registrations raw.method = some n) {e : DecodeError}
    (h : (ofRegistrations registrations).decode value options = .error e) :
    ParamsFault n.params raw.params (.root options) e := by
  rw [decode_of_message _ hraw] at h
  rcases bind_eq_error_iff.mp h with h | ⟨found, hfound, h⟩
  · rw [lookup_eq_error_iff, get?_notifications, hn] at h
    cases h.1
  · rw [lookup_eq_ok_iff, get?_notifications, hn] at hfound
    cases hfound
    rcases bind_eq_error_iff.mp h with h | ⟨_, -, h⟩
    · exact paramsFault_of_notification hraw (method_of_lastNotification? hn) h
    · cases h

theorem decode_eq_unknownMethod_iff {method : String} :
    (ofRegistrations registrations).decode value options = .error (.unknownMethod method) ↔
      (∃ raw, Message.decode value (.root options) = .ok (.request raw) ∧ raw.method = method ∧
        lastRequest? registrations method = none) ∨
      ∃ raw, Message.decode value (.root options) = .ok (.notification raw) ∧
        raw.method = method ∧ lastNotification? registrations method = none := by
  constructor
  · intro h
    have hdecode := h
    rw [decode_eq_bind] at h
    rcases bind_eq_error_iff.mp h with h | ⟨message, hmessage, h⟩
    · rcases Message.exists_record_of_error h with ⟨envelope, h⟩ | ⟨_, h⟩ | ⟨_, _, h⟩
      · exact absurd rfl ((envelope.record.local_decoder.decode h).ne_unknownMethod method)
      · cases h
      · cases h
    · cases message with
      | request raw =>
        cases hlast : lastRequest? registrations raw.method with
        | some r =>
          have hfault := decode_error_of_request hmessage hlast hdecode
          exact absurd rfl (hfault.inside.ne_unknownMethod method)
        | none =>
          have hlookup : lookup (ofRegistrations registrations).requests raw.method =
              .error (.unknownMethod raw.method) :=
            lookup_eq_error_iff.mpr ⟨(get?_requests _ _).trans hlast, rfl⟩
          rw [dispatch, hlookup] at h
          cases h
          exact .inl ⟨raw, hmessage, rfl, hlast⟩
      | notification raw =>
        cases hlast : lastNotification? registrations raw.method with
        | some n =>
          have hfault := decode_error_of_notification hmessage hlast hdecode
          exact absurd rfl (hfault.inside.ne_unknownMethod method)
        | none =>
          have hlookup : lookup (ofRegistrations registrations).notifications raw.method =
              .error (.unknownMethod raw.method) :=
            lookup_eq_error_iff.mpr ⟨(get?_notifications _ _).trans hlast, rfl⟩
          rw [dispatch, hlookup] at h
          cases h
          exact .inr ⟨raw, hmessage, rfl, hlast⟩
      | response raw => cases h
  · rintro (⟨raw, hraw, rfl, hlast⟩ | ⟨raw, hraw, rfl, hlast⟩)
    · rw [decode_of_message _ hraw]
      refine bind_eq_error_iff.mpr (.inl ?_)
      exact lookup_eq_error_iff.mpr ⟨(get?_requests _ _).trans hlast, rfl⟩
    · rw [decode_of_message _ hraw]
      refine bind_eq_error_iff.mpr (.inl ?_)
      exact lookup_eq_error_iff.mpr ⟨(get?_notifications _ _).trans hlast, rfl⟩

theorem decodeText_of_parse (registry : MethodRegistry) {text : Text.Octets} {value : Json}
    (h : Json.parse text = .ok value) (options : DecodeOptions) :
    registry.decodeText text options = registry.decode value options := by
  rw [decodeText, h]

/-- The requests and notifications whose messages have a type in the protocol. -/
def declared : List Registration :=
  Protocol.requests.map .request ++ Protocol.notifications.map .notification

theorem protocol_eq_ofRegistrations : protocol = ofRegistrations declared := by
  rw [ofRegistrations, declared, List.foldl_append, List.foldl_map, List.foldl_map]
  rfl

theorem get?_protocol_requests_iff {method : String} {r : Request} :
    protocol.requests.get? method = some r ↔ r ∈ Protocol.requests ∧ r.method = method := by
  have hnodup : (Protocol.requests.map Request.method).Nodup := by decide
  have htable : protocol.requests =
      NameTable.empty.insertAll (Protocol.requests.map fun r => (r.method, r)) := by
    rw [protocol_eq_ofRegistrations, ofRegistrations, requests_foldl_add]
    rfl
  rw [htable]
  exact NameTable.get?_insertAll_map_iff hnodup

theorem get?_protocol_notifications_iff {method : String} {n : Notification} :
    protocol.notifications.get? method = some n ↔
      n ∈ Protocol.notifications ∧ n.method = method := by
  have hnodup : (Protocol.notifications.map Notification.method).Nodup := by decide
  have htable : protocol.notifications =
      NameTable.empty.insertAll (Protocol.notifications.map fun n => (n.method, n)) := by
    rw [protocol_eq_ofRegistrations, ofRegistrations, notifications_foldl_add]
    rfl
  rw [htable]
  exact NameTable.get?_insertAll_map_iff hnodup

end MethodRegistry

open MethodRegistry (ofRegistrations) in
/-- Dispatch by method is sound and complete after any registrations. A message is answered with a
request exactly if the one registered last for its method reads it, with a response exactly if the
message is one, and with an unknown method exactly if the table of its kind does not have it. Once
the method is found only the parameters can be refused, never the frame. The protocol's methods are
those of the requests and notifications whose messages are types of the protocol. -/
theorem dispatch_sound_and_complete :
    (∀ (registrations : List Registration) (text : Text.Octets) (value : Json),
      Json.parse text = .ok value → ∀ options : DecodeOptions,
      (∀ (r : Request) (message : RequestMessage r.params.Val),
        (ofRegistrations registrations).decodeText text options = .ok (.request r message) ↔
          lastRequest? registrations r.method = some r ∧
            r.codec.decode value (.root options) = .ok message) ∧
      (∀ (n : Notification) (message : NotificationMessage n.params.Val),
        (ofRegistrations registrations).decodeText text options = .ok (.notification n message) ↔
          lastNotification? registrations n.method = some n ∧
            n.codec.decode value (.root options) = .ok message) ∧
      (∀ raw : RawResponse,
        (ofRegistrations registrations).decodeText text options = .ok (.response raw) ↔
          Message.decode value (.root options) = .ok (.response raw)) ∧
      (∀ method : String,
        (ofRegistrations registrations).decodeText text options = .error (.unknownMethod method) ↔
          (∃ raw, Message.decode value (.root options) = .ok (.request raw) ∧
            raw.method = method ∧ lastRequest? registrations method = none) ∨
          ∃ raw, Message.decode value (.root options) = .ok (.notification raw) ∧
            raw.method = method ∧ lastNotification? registrations method = none) ∧
      (∀ (raw : RawRequest) (r : Request) (e : DecodeError),
        Message.decode value (.root options) = .ok (.request raw) →
          lastRequest? registrations raw.method = some r →
            (ofRegistrations registrations).decodeText text options = .error e →
              ParamsFault r.params raw.params (.root options) e ∧ ¬FrameFault (.root options) e ∧
                ∀ held, raw.params = some held →
                  ∃ path rest, e.path? = some path ∧ path.text = "$.params" ++ rest) ∧
      (∀ (raw : RawNotification) (n : Notification) (e : DecodeError),
        Message.decode value (.root options) = .ok (.notification raw) →
          lastNotification? registrations raw.method = some n →
            (ofRegistrations registrations).decodeText text options = .error e →
              ParamsFault n.params raw.params (.root options) e ∧ ¬FrameFault (.root options) e ∧
                ∀ held, raw.params = some held →
                  ∃ path rest, e.path? = some path ∧ path.text = "$.params" ++ rest)) ∧
    MethodRegistry.protocol = ofRegistrations MethodRegistry.declared ∧
    (∀ name b, TypeRegistry.protocol.get? name = some b ↔
      ∃ t, (name, t) ∈ WireType.all ∧ b = t.binding) ∧
    (∀ name r, (name, WireType.request r) ∈ WireType.all ↔
      name = r.requestType ∧ MethodRegistry.protocol.requests.get? r.method = some r) ∧
    (∀ name r, (name, WireType.response r) ∈ WireType.all ↔
      name = r.responseType ∧ MethodRegistry.protocol.requests.get? r.method = some r) ∧
    (∀ name n, (name, WireType.notification n) ∈ WireType.all ↔
      name = n.typeName ∧ MethodRegistry.protocol.notifications.get? n.method = some n) := by
  refine ⟨?_, MethodRegistry.protocol_eq_ofRegistrations, TypeRegistry.get?_protocol_iff,
    ?_, ?_, ?_⟩
  · intro registrations text value hparse options
    rw [MethodRegistry.decodeText_of_parse _ hparse]
    refine ⟨fun r message => MethodRegistry.decode_eq_request_iff,
      fun n message => MethodRegistry.decode_eq_notification_iff,
      fun raw => MethodRegistry.decode_eq_response_iff _,
      fun method => MethodRegistry.decode_eq_unknownMethod_iff, ?_, ?_⟩
    · intro raw r e hraw hr he
      have hfault := MethodRegistry.decode_error_of_request hraw hr he
      refine ⟨hfault, hfault.not_frameFault, fun held hheld => ?_⟩
      rw [hheld] at hfault
      exact hfault.exists_text
    · intro raw n e hraw hn he
      have hfault := MethodRegistry.decode_error_of_notification hraw hn he
      refine ⟨hfault, hfault.not_frameFault, fun held hheld => ?_⟩
      rw [hheld] at hfault
      exact hfault.exists_text
  · intro name r
    rw [WireType.request_mem_all_iff, MethodRegistry.get?_protocol_requests_iff]
    exact and_congr_right fun _ => (and_iff_left rfl).symm
  · intro name r
    rw [WireType.response_mem_all_iff, MethodRegistry.get?_protocol_requests_iff]
    exact and_congr_right fun _ => (and_iff_left rfl).symm
  · intro name n
    rw [WireType.notification_mem_all_iff, MethodRegistry.get?_protocol_notifications_iff]
    exact and_congr_right fun _ => (and_iff_left rfl).symm

theorem dispatch_sound_and_complete_exit :
    (MethodRegistry.ofRegistrations [.request ⟨"Exit", "exit", .noParams, .null⟩]).decodeText
        (Text.encode "\x7b\"jsonrpc\":\"2.0\",\"method\":\"exit\",\"params\":7\x7d")
        .strict = .error (.unknownMethod "exit") ∧
    ∃ e path rest,
      (MethodRegistry.ofRegistrations [.notification ⟨"Exit", "exit", .boolean⟩]).decodeText
        (Text.encode "\x7b\"jsonrpc\":\"2.0\",\"method\":\"exit\",\"params\":7\x7d")
        .strict = .error e ∧ e.path? = some path ∧ path.text = "$.params" ++ rest := by
  obtain ⟨value, held, hvalue, hmessage⟩ : ∃ value held, Json.parse
      (Text.encode "\x7b\"jsonrpc\":\"2.0\",\"method\":\"exit\",\"params\":7\x7d") =
        .ok value ∧ Message.decode value (.root .strict) =
          .ok (.notification ⟨"exit", some held⟩) := by
    have hread : ((Json.parse
        (Text.encode "\x7b\"jsonrpc\":\"2.0\",\"method\":\"exit\",\"params\":7\x7d")).toOption.bind
        fun value => (Message.decode value (.root .strict)).toOption.map fun message =>
          (message.kind, message.method?, (value.get? "params").isSome)) =
            some (.notification, some "exit", true) := by
      decide +kernel
    obtain ⟨value, hvalue, hread⟩ := Option.bind_eq_some_iff.mp hread
    obtain ⟨message, hmessage, hparts⟩ := Option.map_eq_some_iff.mp hread
    rw [toOption_eq_some_iff] at hvalue hmessage
    have hkind : message.kind = .notification := congrArg (·.1) hparts
    have hmethod : message.method? = some "exit" := congrArg (·.2.1) hparts
    have hgiven : (value.get? "params").isSome = true := congrArg (·.2.2) hparts
    cases message with
    | notification raw =>
      obtain ⟨members, rfl, -, hparams⟩ := Message.decode_eq_notification_iff.mp hmessage
      obtain ⟨held, hheld⟩ := Option.isSome_iff_exists.mp hgiven
      obtain ⟨method, params⟩ := raw
      cases hmethod
      cases hparams.trans hheld
      exact ⟨_, held, hvalue, hmessage⟩
    | _ => cases hkind
  constructor
  · exact ((dispatch_sound_and_complete.1 _ _ value hvalue .strict).2.2.2.1 "exit").mpr
      (.inr ⟨_, hmessage, rfl, rfl⟩)
  · have hrefused : ((MethodRegistry.ofRegistrations
        [.notification ⟨"Exit", "exit", .boolean⟩]).decodeText
        (Text.encode "\x7b\"jsonrpc\":\"2.0\",\"method\":\"exit\",\"params\":7\x7d")
        .strict).toOption.isNone := by
      decide +kernel
    cases hresult : (MethodRegistry.ofRegistrations
        [.notification ⟨"Exit", "exit", .boolean⟩]).decodeText
        (Text.encode "\x7b\"jsonrpc\":\"2.0\",\"method\":\"exit\",\"params\":7\x7d")
        .strict with
    | ok _ => rw [hresult] at hrefused; cases hrefused
    | error e =>
      obtain ⟨-, -, hplace⟩ := (dispatch_sound_and_complete.1 _ _ _ hvalue .strict).2.2.2.2.2
        _ ⟨"Exit", "exit", .boolean⟩ e hmessage rfl hresult
      obtain ⟨path, rest, hpath, htext⟩ := hplace held rfl
      exact ⟨e, path, rest, rfl, hpath, htext⟩

end LspWire
