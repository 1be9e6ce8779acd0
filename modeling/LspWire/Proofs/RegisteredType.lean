import LspWire.Proofs.AscendingTable
import LspWire.Registry.Types

/-! The types of the protocol by name.
The names of the protocol's types differ, so its registry holds exactly the list of all of them:
plain types, messages of any method, and the messages of each declared request and notification. -/

namespace LspWire

inductive WireType where
  | plain (s : Schema)
  | message
  | request (r : Request)
  | response (r : Request)
  | notification (n : Notification)

namespace WireType

def Value : WireType → Type
  | plain s => s.Val
  | message => Message
  | request r => RequestMessage r.params.Val
  | response r => ResponseMessage r.result.Val
  | notification n => NotificationMessage n.params.Val

def codec : (t : WireType) → Codec t.Value
  | plain s => s.codec
  | message => Message.codec
  | request r => r.codec
  | response r => r.responseCodec
  | notification n => n.codec

def binding (t : WireType) : Binding := .ofCodec t.codec

def ofRequest (r : Request) : List (String × WireType) :=
  [(r.requestType, .request r), (r.responseType, .response r)]

def all : List (String × WireType) :=
  Protocol.types.map (fun named => (named.1, plain named.2)) ++
    ([("Message", message)] ++
      (Protocol.requests.flatMap ofRequest ++
        Protocol.notifications.map fun n => (n.typeName, notification n)))

def bindings (named : List (String × WireType)) : List (String × Binding) :=
  named.map fun entry => (entry.1, entry.2.binding)

theorem bindings_append (front back : List (String × WireType)) :
    bindings (front ++ back) = bindings front ++ bindings back :=
  List.map_append

theorem all_names_nodup : (all.map (·.1)).Nodup := by decide +kernel

theorem mem_all_iff (name : String) (t : WireType) :
    (name, t) ∈ all ↔
      (∃ s, (name, s) ∈ Protocol.types ∧ t = plain s) ∨
      (name = "Message" ∧ t = message) ∨
      (∃ r ∈ Protocol.requests, name = r.requestType ∧ t = request r ∨
        name = r.responseType ∧ t = response r) ∨
      ∃ n ∈ Protocol.notifications, name = n.typeName ∧ t = notification n := by
  simp only [all, ofRequest, List.mem_append, List.mem_map, List.mem_flatMap, List.mem_cons,
    List.not_mem_nil, or_false, Prod.mk.injEq, Prod.exists]
  refine or_congr ⟨?_, ?_⟩ (or_congr Iff.rfl (or_congr Iff.rfl ⟨?_, ?_⟩))
  · rintro ⟨name, s, hs, rfl, rfl⟩
    exact ⟨s, hs, rfl⟩
  · rintro ⟨s, hs, rfl⟩
    exact ⟨name, s, hs, rfl, rfl⟩
  · rintro ⟨n, hn, rfl, rfl⟩
    exact ⟨n, hn, rfl, rfl⟩
  · rintro ⟨n, hn, rfl, rfl⟩
    exact ⟨n, hn, rfl, rfl⟩

theorem request_mem_all_iff (name : String) (r : Request) :
    (name, request r) ∈ all ↔ name = r.requestType ∧ r ∈ Protocol.requests := by
  rw [mem_all_iff]
  constructor
  · rintro (⟨_, _, h⟩ | ⟨_, h⟩ | ⟨_, hr, ⟨rfl, h⟩ | ⟨_, h⟩⟩ | ⟨_, _, _, h⟩) <;> cases h
    exact ⟨rfl, hr⟩
  · rintro ⟨rfl, hr⟩
    exact .inr (.inr (.inl ⟨r, hr, .inl ⟨rfl, rfl⟩⟩))

theorem response_mem_all_iff (name : String) (r : Request) :
    (name, response r) ∈ all ↔ name = r.responseType ∧ r ∈ Protocol.requests := by
  rw [mem_all_iff]
  constructor
  · rintro (⟨_, _, h⟩ | ⟨_, h⟩ | ⟨_, hr, ⟨_, h⟩ | ⟨rfl, h⟩⟩ | ⟨_, _, _, h⟩) <;> cases h
    exact ⟨rfl, hr⟩
  · rintro ⟨rfl, hr⟩
    exact .inr (.inr (.inl ⟨r, hr, .inr ⟨rfl, rfl⟩⟩))

theorem notification_mem_all_iff (name : String) (n : Notification) :
    (name, notification n) ∈ all ↔ name = n.typeName ∧ n ∈ Protocol.notifications := by
  rw [mem_all_iff]
  constructor
  · rintro (⟨_, _, h⟩ | ⟨_, h⟩ | ⟨_, _, ⟨_, h⟩ | ⟨_, h⟩⟩ | ⟨_, hn, rfl, h⟩) <;> cases h
    exact ⟨rfl, hn⟩
  · rintro ⟨rfl, hn⟩
    exact .inr (.inr (.inr ⟨n, hn, rfl, rfl⟩))

end WireType

namespace TypeRegistry

open WireType (bindings)

theorem registerTypes_eq (registry : TypeRegistry) (types : List (String × Schema)) :
    registerTypes registry types =
      registry.insertAll (bindings (types.map fun named => (named.1, .plain named.2))) := by
  rw [registerTypes, NameTable.insertAll, bindings, List.map_map, List.foldl_map]
  rfl

theorem foldl_registerRequest_eq (registry : TypeRegistry) (requests : List Request) :
    requests.foldl registerRequest registry =
      registry.insertAll (bindings (requests.flatMap WireType.ofRequest)) := by
  induction requests generalizing registry with
  | nil => rfl
  | cons r rest ih => exact ih (registerRequest registry r)

theorem foldl_registerNotification_eq (registry : TypeRegistry)
    (notifications : List Notification) :
    notifications.foldl registerNotification registry =
      registry.insertAll (bindings (notifications.map fun n => (n.typeName, .notification n))) := by
  rw [NameTable.insertAll, bindings, List.map_map, List.foldl_map]
  rfl

theorem protocol_eq : protocol = NameTable.empty.insertAll (bindings WireType.all) := by
  rw [protocol, registerProtocol, foldl_registerNotification_eq, foldl_registerRequest_eq,
    registerTypes_eq, WireType.all]
  simp only [WireType.bindings_append, NameTable.insertAll_append]
  rfl

theorem get?_protocol_iff (name : String) (b : Binding) :
    protocol.get? name = some b ↔ ∃ t, (name, t) ∈ WireType.all ∧ b = t.binding := by
  have hnodup : ((bindings WireType.all).map (·.1)).Nodup := by
    rw [bindings, List.map_map]
    exact WireType.all_names_nodup
  rw [protocol_eq, NameTable.get?_insertAll_empty_iff hnodup, bindings, List.mem_map]
  constructor
  · rintro ⟨⟨_, t⟩, hmem, heq⟩
    cases heq
    exact ⟨t, hmem, rfl⟩
  · rintro ⟨t, hmem, rfl⟩
    exact ⟨_, hmem, rfl⟩

theorem get?_of_getElem? {i : Nat} {name : String} {t : WireType}
    (h : WireType.all[i]? = some (name, t)) : protocol.get? name = some t.binding :=
  (get?_protocol_iff name t.binding).mpr ⟨t, List.mem_of_getElem? h, rfl⟩

end TypeRegistry

end LspWire
