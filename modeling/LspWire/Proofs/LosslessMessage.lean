import LspWire.Proofs.TrimmedMessage

/-! Reading strictly loses nothing of a message, nor of any type of the protocol.
What is trimmed strictly stays as it is, so the only thing that is not written again are the null
parameters of a method that has none. -/

namespace LspWire

theorem WireType.encode_of_decode {t : WireType} (ht : t.faithful = true) {value : Json}
    (hvalue : value.WellFormed) {cx : Context} (hcx : cx.options = .strict) {x : t.Value}
    (h : t.codec.decode value cx = .ok x) :
    (¬(t.dropsNullParams = true ∧ value.get? "params" = some .null) →
        t.codec.encode x = .ok value) ∧
      (t.dropsNullParams = true → value.get? "params" = some .null →
        t.codec.encode x = .ok (value.without "params")) := by
  obtain ⟨document, hencode, s, -, hkept, hdropped⟩ := trims_of_decode ht hvalue h
  have hdocument := Codec.wellFormed_of_encode hencode
  have hstrict : cx.options.rejectUnknownFields = true := by rw [hcx]; rfl
  constructor
  · intro hnot
    rw [hencode, (hkept hnot).eq_of_strict hstrict hdocument hvalue]
  · intro hdrops hnull
    rw [hencode, (hdropped hdrops hnull).eq_of_strict hstrict hdocument
      (Json.wellFormed_without "params" hvalue)]

/-- For every type of the protocol, whatever is read strictly from a document is written as that
document. The one exception are null parameters of a method that has none: they are left out. -/
theorem encode_of_strict_decode {name : String} {b : Binding}
    (hb : TypeRegistry.protocol.get? name = some b) {value : Json} (hvalue : value.WellFormed)
    {x : b.Value} (h : b.codec.decode value (.root .strict) = .ok x) :
    (¬(name ∈ Protocol.typesWithoutParams ∧ value.get? "params" = some .null) →
        b.codec.encode x = .ok value) ∧
      (name ∈ Protocol.typesWithoutParams → value.get? "params" = some .null →
        b.codec.encode x = .ok (value.without "params")) := by
  obtain ⟨t, ht, rfl⟩ := (TypeRegistry.get?_protocol_iff name b).mp hb
  rw [← WireType.dropsNullParams_iff _ ht]
  exact WireType.encode_of_decode (WireType.all_faithful _ ht) hvalue rfl h

theorem encode_of_strict_decode_exit :
    (∃ x, Protocol.position.codec.decode (.object [("character", .number (.integer 7)),
        ("line", .number (.integer 3))]) (.root .strict) = .ok x ∧
      Protocol.position.codec.encode x = .ok (.object [("character", .number (.integer 7)),
        ("line", .number (.integer 3))])) ∧
    (Json.object [("jsonrpc", .string "2.0"), ("method", .string "exit"),
      ("params", .null)]).WellFormed ∧
    Protocol.exit.codec.decode (.object [("jsonrpc", .string "2.0"), ("method", .string "exit"),
      ("params", .null)]) (.root .strict) = .ok ⟨()⟩ ∧
    Protocol.exit.codec.encode ⟨()⟩ =
      .ok (.object [("jsonrpc", .string "2.0"), ("method", .string "exit")]) := by
  have hposition : TypeRegistry.protocol.get? "Position" =
      some (WireType.plain Protocol.position).binding :=
    TypeRegistry.get?_of_getElem? (i := 0) rfl
  have hplace : (Json.object [("character", .number (.integer 7)),
      ("line", .number (.integer 3))]).WellFormed := by decide
  obtain ⟨x, hx⟩ : ∃ x, Protocol.position.codec.decode (.object [
      ("character", .number (.integer 7)), ("line", .number (.integer 3))]) (.root .strict) =
        .ok x := ⟨_, rfl⟩
  have hexit : TypeRegistry.protocol.get? "ExitNotification" =
      some (WireType.notification Protocol.exit).binding := by
    rw [TypeRegistry.get?_protocol_iff]
    exact ⟨_, (WireType.notification_mem_all_iff _ _).mpr
      ⟨rfl, List.mem_cons_of_mem _ List.mem_cons_self⟩, rfl⟩
  have hwf : (Json.object [("jsonrpc", .string "2.0"), ("method", .string "exit"),
      ("params", .null)]).WellFormed := by decide
  have hdecode : Protocol.exit.codec.decode (.object [("jsonrpc", .string "2.0"),
      ("method", .string "exit"), ("params", .null)]) (.root .strict) = .ok ⟨()⟩ := by
    rfl
  exact ⟨⟨x, hx, (encode_of_strict_decode hposition hplace hx).1 fun h => absurd h.1 (by decide)⟩,
    hwf, hdecode, (encode_of_strict_decode hexit hwf hdecode).2 (by decide) rfl⟩

end LspWire
