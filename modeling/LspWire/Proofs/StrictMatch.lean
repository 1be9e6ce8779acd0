import LspWire.Proofs.MessageRecord
import LspWire.Proofs.OrderlyType
import LspWire.Proofs.Refusal
import LspWire.Proofs.RelaxedReading

/-! Strict matches of a union.
Where unknown keys are refused, the variants of a separate union exclude each other, but for the one
empty list that two of them may share; and what they read of it they write alike. So a strict
reading never ends in an ambiguity, wherever unions stand in the value. -/

namespace LspWire

theorem Variants.pairwise_alternatives {union : String} : ∀ variants : Variants,
    variants.separate union = true → variants.alternatives.Pairwise fun a b =>
      ∀ value path x y, a.decode value ⟨path, .strict⟩ = .ok x →
        b.decode value ⟨path, .strict⟩ = .ok y → union = "DefinitionResult" ∧ value = .array []
  | .nil, _ => List.Pairwise.nil
  | .cons _ _ _ type rest, h => by
    rw [separate, Bool.and_eq_true] at h
    refine List.pairwise_cons.mpr ⟨fun b hb value path x y hx hy => ?_, ?_⟩
    · obtain ⟨own, hown, rfl⟩ := List.mem_map.mp hb
      obtain ⟨z, hz, rfl⟩ := map_eq_ok_iff.mp hy
      obtain ⟨u, hu, -⟩ := map_eq_ok_iff.mp hx
      have hempty : union = "DefinitionResult" ∧ rest.emptyUnder "Links" z = true :=
        Decidable.byContradiction fun hshown =>
          not_accepts_of_behind rest h.1 own hown rfl hz hshown ⟨_, u, rfl, hu⟩
      exact ⟨hempty.1, eq_empty_of_emptyUnder rest own hown hz hempty.2⟩
    · refine List.pairwise_map.mpr ((pairwise_alternatives rest h.2).imp ?_)
      intro a b hab value path x y hx hy
      obtain ⟨u, hu, -⟩ := map_eq_ok_iff.mp hx
      obtain ⟨v, hv, -⟩ := map_eq_ok_iff.mp hy
      exact hab value path u v hu hv

theorem Variants.eq_empty_of_matches {union : String} {variants : Variants}
    (h : variants.separate union = true) {value : Json} {cx : Context}
    {first second : String × variants.Val} {rest : Union.Matches variants.Val}
    (hfound : variants.alternatives.filterMap (Union.strictMatch? value cx) =
      first :: second :: rest) : value = .array [] := by
  have hpairwise : (variants.alternatives.filterMap (Union.strictMatch? value cx)).Pairwise
      fun _ _ => value = .array [] :=
    (variants.pairwise_alternatives h).filterMap _ fun a b hab found ha other hb =>
      (hab value cx.path _ _ (Union.strictMatch?_eq_some_iff.mp ha).2
        (Union.strictMatch?_eq_some_iff.mp hb).2).2
  rw [hfound] at hpairwise
  exact (List.pairwise_cons.mp hpairwise).1 second List.mem_cons_self

def DecodeError.Plain (cx : Context) (e : DecodeError) : Prop :=
  cx.options = .strict → e.isAmbiguity = false

theorem DecodeError.inward_plain : DecodeError.Inward DecodeError.Plain where
  own _ h _ := h
  of_step h := h

/-- What can be checked of a union so that its strict matches are never ambiguous. -/
def Variants.exclusive (union : String) (variants : Variants) : Bool :=
  variants.separate union && variants.faithful

theorem Variants.refuses_exclusive {union : String} {variants : Variants}
    (h : variants.exclusive union = true) :
    (Schema.union union variants).decoder.Refuses DecodeError.Plain := by
  rw [exclusive, Bool.and_eq_true] at h
  refine Decoder.refuses_present DecodeError.inward_plain fun {value cx e} he hcx => ?_
  obtain ⟨path, options⟩ := cx
  cases hcx
  have hchoose : Union.choose union (fun x => some (variants.encode x)) path
      (variants.alternatives.filterMap (Union.strictMatch? value ⟨path, .strict⟩)) = .error e := by
    rw [← Union.candidates_strict]
    exact he
  -- None is a refusal of another kind, one is chosen; several are of the empty list.
  cases hfound : variants.alternatives.filterMap (Union.strictMatch? value ⟨path, .strict⟩) with
  | nil =>
    rw [hfound] at hchoose
    cases hchoose
    rfl
  | cons first others =>
    cases others with
    | nil =>
      rw [hfound] at hchoose
      cases hchoose
    | cons second rest =>
      have hvalue : value = .array [] := eq_empty_of_matches h.1 hfound
      have hwf : value.WellFormed := hvalue ▸ (Json.wellFormed_array_iff []).mpr (by simp)
      have hfirst : Union.First variants.alternatives value ⟨path, .strict⟩ first.2 :=
        ⟨first.1, by rw [← List.head?_filterMap, hfound, List.head?_cons]⟩
      have hok : (Schema.union union variants).decoder.decode value ⟨path, .strict⟩ =
          .ok first.2 := Schema.decode_of_first h.2 hwf hfirst
      cases he.symm.trans hok

namespace WireType

def unions : WireType → List (String × Variants)
  | plain s => s.unions
  | message => []
  | request r => r.params.unions
  | response r => r.result.unions
  | notification n => n.params.unions

theorem mem_unions_of_layout {t : WireType} {s : Schema} (hs : s ∈ t.layouts)
    {u : String × Variants} (hu : u ∈ s.unions) : u ∈ t.unions := by
  cases t with
  | plain own => cases List.mem_singleton.mp hs; exact hu
  | message =>
    simp only [layouts, List.mem_cons, List.not_mem_nil, or_false] at hs
    rcases hs with rfl | rfl | rfl | rfl <;> cases hu
  | request r =>
    cases List.mem_singleton.mp hs
    change u ∈ r.params.unions ++ [] at hu
    rwa [List.append_nil] at hu
  | notification n =>
    cases List.mem_singleton.mp hs
    change u ∈ n.params.unions ++ [] at hu
    rwa [List.append_nil] at hu
  | response r =>
    simp only [layouts, List.mem_cons, List.not_mem_nil, or_false] at hs
    rcases hs with rfl | rfl
    · change u ∈ r.result.unions ++ [] at hu
      rwa [List.append_nil] at hu
    · cases hu

theorem refusal_of_decode {P : Context → DecodeError → Prop} (hP : DecodeError.Inward P)
    {t : WireType} (hunions : ∀ u ∈ t.unions, (Schema.union u.1 u.2).decoder.Refuses P)
    {value : Json} {cx : Context} {e : DecodeError} (h : t.codec.decode value cx = .error e) :
    P cx e ∨ e.path? = none := by
  rcases exists_layout_of_error h with ⟨s, hs, h⟩ | h
  · exact .inl ((s.refuses hP fun u hu => hunions u (mem_unions_of_layout hs hu)).decode h)
  · exact .inr h.path?_eq_none

theorem all_exclusive :
    ∀ entry ∈ all, ∀ u ∈ entry.2.unions, u.2.exclusive u.1 = true := by decide +kernel

end WireType

def Protocol.shapeUnions : List Schema :=
  [textDocumentContentChangeEvent, textDocumentEditItem, markedString, hoverContents, definition,
    definitionResult]

def Schema.checkUnion (check : String → Variants → Bool) : Schema → Bool
  | .union name variants => check name variants
  | _ => true

theorem Protocol.separate_of_shapeUnion {union : String} {variants : Variants}
    (h : Schema.union union variants ∈ shapeUnions) : variants.separate union = true := by
  have hall : ∀ s ∈ shapeUnions,
      s.checkUnion (fun union variants => variants.separate union) = true := by decide
  exact hall _ h

/-- Where unknown keys are refused, no two alternatives of a union known by shape match the same
document, except that a definition and its links both match the empty list, of which a definition
is read. So no strict reading of a type of the protocol ends in an ambiguity, at any place. -/
theorem strict_reading_unambiguous :
    (∀ union variants, Schema.union union variants ∈ Protocol.shapeUnions →
      variants.alternatives.Pairwise fun a b => ∀ value path x y,
        a.decode value ⟨path, .strict⟩ = .ok x → b.decode value ⟨path, .strict⟩ = .ok y →
          union = "DefinitionResult" ∧ value = .array []) ∧
    (∀ union variants, Schema.union union variants = Protocol.definitionResult →
      ∀ path, ∀ a ∈ variants.alternatives, ∃ x, a.decode (.array []) ⟨path, .strict⟩ = .ok x) ∧
    (∀ path, Protocol.definitionResult.decoder.decode (.array []) ⟨path, .strict⟩ =
      .ok (Sum.inl (Sum.inr (Sum.inl ([] : List Protocol.location.Val))))) ∧
    ∀ name b, TypeRegistry.protocol.get? name = some b → ∀ value place path union names,
      b.codec.decode value ⟨place, .strict⟩ ≠ .error (.unionAmbiguous path union names) := by
  refine ⟨fun _ variants h => ?_, ?_, fun _ => rfl, ?_⟩
  · exact variants.pairwise_alternatives (Protocol.separate_of_shapeUnion h)
  · intro union variants h path a ha
    cases h
    rcases List.mem_cons.mp ha with rfl | ha
    · exact ⟨_, rfl⟩
    · rcases List.mem_cons.mp ha with rfl | ha
      · exact ⟨_, rfl⟩
      · cases ha
  · intro name b hb value place path union names h
    obtain ⟨t, ht, rfl⟩ := (TypeRegistry.get?_protocol_iff name b).mp hb
    have hunions : ∀ u ∈ t.unions, (Schema.union u.1 u.2).decoder.Refuses DecodeError.Plain :=
      fun u hu => Variants.refuses_exclusive (WireType.all_exclusive _ ht u hu)
    rcases WireType.refusal_of_decode DecodeError.inward_plain hunions h with hplain | hpath
    · cases hplain rfl
    · cases hpath

theorem strict_reading_unambiguous_markup :
    Protocol.markupContent.decoder.decode
        (.object [("kind", .string "markdown"), ("value", .string "x")]) ⟨.payload, .strict⟩ =
      .ok ((⟨1, by decide⟩ : Fin Protocol.markupKind.members.length), "x", ()) ∧
    (∀ y, Protocol.markedString.decoder.decode
      (.object [("kind", .string "markdown"), ("value", .string "x")]) ⟨.payload, .strict⟩ ≠
        .ok y) ∧
    TypeRegistry.protocol.get? "HoverContents" =
      some (WireType.plain Protocol.hoverContents).binding ∧
    Protocol.hoverContents.codec.decode
        (.object [("kind", .string "markdown"), ("value", .string "x")]) ⟨.payload, .strict⟩ ≠
      .error (.unionAmbiguous .payload "HoverContents" ["MarkupContent", "MarkedString"]) := by
  have hcontents : TypeRegistry.protocol.get? "HoverContents" =
      some (WireType.plain Protocol.hoverContents).binding :=
    TypeRegistry.get?_of_getElem? (i := 36) rfl
  have hunion : Protocol.hoverContents ∈ Protocol.shapeUnions :=
    List.mem_iff_getElem?.mpr ⟨3, rfl⟩
  have hmarkup : Protocol.markupContent.decoder.decode
      (.object [("kind", .string "markdown"), ("value", .string "x")]) ⟨.payload, .strict⟩ =
        .ok ((⟨1, by decide⟩ : Fin Protocol.markupKind.members.length), "x", ()) := by
    rfl
  have hpairs := List.pairwise_cons.mp (strict_reading_unambiguous.1 _ _ hunion)
  refine ⟨hmarkup, fun y hy => ?_, hcontents, ?_⟩
  · have hboth := hpairs.1 _ List.mem_cons_self _ _ (Sum.inl _) (Sum.inr (Sum.inl y))
      (map_eq_ok_iff.mpr ⟨_, hmarkup, rfl⟩)
      (map_eq_ok_iff.mpr ⟨Sum.inl y, map_eq_ok_iff.mpr ⟨y, hy, rfl⟩, rfl⟩)
    cases hboth.2
  · exact strict_reading_unambiguous.2.2.2 _ _ hcontents _ _ _ _ _

end LspWire
