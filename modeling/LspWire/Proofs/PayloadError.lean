import LspWire.Proofs.ErrorTruth
import LspWire.Proofs.MessageRecord

/-! Errors of the types of the protocol are true.
The errors of a message are those of a record of its keys, or they concern its kind. Of these only
one names a place: the one that says that there is no object. So every error with a place is true of
the payload. -/

namespace LspWire

/-- Every error of a type of the protocol that names a place is true of the payload: the path leads
on from the place of reading by steps into a part of the document, through what the type declares,
and what the error says holds of that part. -/
theorem decode_error_true {name : String} {b : Binding}
    (hb : TypeRegistry.protocol.get? name = some b) {value : Json} (hvalue : value.WellFormed)
    {cx : Context} {e : DecodeError} {path : Path} (h : b.codec.decode value cx = .error e)
    (hpath : e.path? = some path) :
    ∃ t s steps part held, (name, t) ∈ WireType.all ∧ b = t.binding ∧ s ∈ t.layouts ∧
      s.Reaches value steps part held ∧ value.at? steps = some held ∧
        path = (cx.within steps).path ∧
          path.text = cx.path.text ++ String.join (steps.map PathStep.text) ∧
            e.TrueOf part held (cx.within steps) := by
  obtain ⟨t, ht, rfl⟩ := (TypeRegistry.get?_protocol_iff name b).mp hb
  obtain ⟨s, hs, hread⟩ : ∃ s ∈ t.layouts, s.decoder.decode value cx = .error e := by
    refine (WireType.exists_layout_of_error h).resolve_right fun hfault => ?_
    cases hpath.symm.trans hfault.path?_eq_none
  obtain ⟨steps, part, held, hreaches, hplace, htrue⟩ := s.refusesTruly value _ e hvalue hread
  have heq : path = (cx.within steps).path := Option.some.inj (hpath.symm.trans hplace)
  exact ⟨t, s, steps, part, held, ht, rfl, hs, hreaches, hreaches.at?_eq, heq,
    heq ▸ cx.text_within steps, htrue⟩

theorem decode_error_true_column :
    (Json.object [("character", .number (.integer (-1))),
      ("line", .number (.integer 0))]).WellFormed ∧
    Protocol.position.codec.decode (.object [("character", .number (.integer (-1))),
      ("line", .number (.integer 0))]) (.root .strict) =
        .error (.fieldOutOfRange ⟨"$", [.field "character"]⟩ "uinteger" "-1") ∧
    ∃ t s steps part held, ("Position", t) ∈ WireType.all ∧ s ∈ t.layouts ∧
      s.Reaches (.object [("character", .number (.integer (-1))),
        ("line", .number (.integer 0))]) steps part held ∧
      ⟨"$", [.field "character"]⟩ = ((Context.root .strict).within steps).path ∧
      (DecodeError.fieldOutOfRange ⟨"$", [.field "character"]⟩ "uinteger" "-1").TrueOf part held
        ((Context.root .strict).within steps) := by
  have hposition : TypeRegistry.protocol.get? "Position" =
      some (WireType.plain Protocol.position).binding :=
    TypeRegistry.get?_of_getElem? (i := 0) rfl
  have hwf : (Json.object [("character", .number (.integer (-1))),
      ("line", .number (.integer 0))]).WellFormed := by decide
  have hdecode : Protocol.position.codec.decode (.object [("character", .number (.integer (-1))),
      ("line", .number (.integer 0))]) (.root .strict) =
        .error (.fieldOutOfRange ⟨"$", [.field "character"]⟩ "uinteger" "-1") := by
    rfl
  obtain ⟨t, s, steps, part, held, ht, -, hs, hreaches, -, hpath, -, htrue⟩ :=
    decode_error_true hposition hwf hdecode rfl
  exact ⟨hwf, hdecode, t, s, steps, part, held, ht, hs, hreaches, hpath, htrue⟩

end LspWire
