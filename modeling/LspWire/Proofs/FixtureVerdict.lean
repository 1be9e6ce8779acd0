import LspWire.Conformance.Run
import LspWire.Proofs.FixtureReport
import LspWire.Proofs.RegisteredType

/-! The verdict on one fixture.
Unless reading its content crashes, a fixture passes exactly if its type is known, its content is
read just when its name says so, and a value that was to be read survives being written. Otherwise
one of four things is wrong with it, and the verdict says which. -/

namespace LspWire

open Text (Octets)

namespace Binding

variable {b : Binding}

def CrashFree (b : Binding) : Prop := ∀ value cx, b.crash value cx = none

theorem crashFree_ofCodec {α : Type} (codec : Codec α) : (ofCodec codec).CrashFree :=
  fun _ _ => rfl

theorem CrashFree.read_eq (hb : b.CrashFree) (value : Json) (options : DecodeOptions) :
    b.read value options = .finished (b.codec.decode value (.root options)) := by
  rw [read, hb]

theorem CrashFree.readText_eq (hb : b.CrashFree) (content : Octets) (options : DecodeOptions) :
    b.readText content options = .finished (b.codec.decodeText content options) := by
  unfold readText Codec.decodeText
  cases Json.parse content with
  | error fault => rfl
  | ok value => exact hb.read_eq value options

/-- The encoding of the value is read again, and what is read is written as the same document. -/
def Survives (b : Binding) (options : DecodeOptions) (x : b.Value) : Prop :=
  ∃ document y again, b.codec.encode x = .ok document ∧
    b.codec.decode document (.root options) = .ok y ∧ b.codec.encode y = .ok again ∧
      again.same document = true

theorem Survives.roundTripFault_eq_none (hb : b.CrashFree) {options : DecodeOptions} {x : b.Value}
    (h : b.Survives options x) : b.roundTripFault? options x = .finished none := by
  obtain ⟨document, y, again, hdocument, hy, hagain, hsame⟩ := h
  unfold roundTripFault?
  rw [hdocument]
  change (b.read document options >>= _) = _
  rw [hb.read_eq, hy, Attempt.finished_bind]
  dsimp only
  rw [hagain]
  exact if_pos hsame

theorem CrashFree.exists_roundTripFault (hb : b.CrashFree) {options : DecodeOptions} {x : b.Value}
    (h : ¬b.Survives options x) :
    ∃ detail, b.roundTripFault? options x = .finished (some detail) := by
  unfold roundTripFault?
  cases hdocument : b.codec.encode x with
  | error message => exact ⟨_, rfl⟩
  | ok document =>
    change ∃ detail, (b.read document options >>= _) = _
    rw [hb.read_eq, Attempt.finished_bind]
    cases hy : b.codec.decode document (.root options) with
    | error e => exact ⟨_, rfl⟩
    | ok y =>
      dsimp only
      cases hagain : b.codec.encode y with
      | error message => exact ⟨_, rfl⟩
      | ok again =>
        have hsame : ¬again.same document = true := fun hsame =>
          h ⟨document, y, again, hdocument, hy, hagain, hsame⟩
        exact ⟨_, if_neg hsame⟩

end Binding

theorem WireType.crashFree_binding (t : WireType) : t.binding.CrashFree :=
  Binding.crashFree_ofCodec t.codec

namespace Checker

/-- The type of a fixture is known, its content is read as that type just when its name says so, and
what was to be read survives a round trip where there is one. -/
def Fits (c : Checker) (name : FixtureName) (content : Octets) : Prop :=
  ∃ b, c.registry.get? name.typeName = some b ∧
    ((∃ x, b.codec.decodeText content c.config.decodeOptions = .ok x) ↔ name.expected = .accept) ∧
    (name.expected = .accept → c.config.run.roundTrip = true →
      ∀ x, b.codec.decodeText content c.config.decodeOptions = .ok x →
        b.Survives c.config.decodeOptions x)

/-- The defect is of the kind that the case of a fixture dictates, and tells what happened. -/
def Dictates (c : Checker) (fixture : Fixture) (content : Octets) : Defect → Prop
  | .unknownType typeName _ =>
    typeName = fixture.name.typeName ∧ c.registry.get? typeName = none
  | .unexpectedFailure typeName id e =>
    typeName = fixture.name.typeName ∧ id = fixture.id ∧ fixture.name.expected = .accept ∧
      ∃ b, c.registry.get? typeName = some b ∧
        b.codec.decodeText content c.config.decodeOptions = .error e
  | .unexpectedSuccess typeName id =>
    typeName = fixture.name.typeName ∧ id = fixture.id ∧ fixture.name.expected = .reject ∧
      ∃ b x, c.registry.get? typeName = some b ∧
        b.codec.decodeText content c.config.decodeOptions = .ok x
  | .roundTripMismatch typeName id detail =>
    typeName = fixture.name.typeName ∧ id = fixture.id ∧ fixture.name.expected = .accept ∧
      c.config.run.roundTrip = true ∧
        ∃ b x, c.registry.get? typeName = some b ∧
          b.codec.decodeText content c.config.decodeOptions = .ok x ∧
            ¬b.Survives c.config.decodeOptions x ∧
              b.roundTripFault? c.config.decodeOptions x = .finished (some detail)
  | .unreadable .. => False
  | .panicked .. => False

theorem dictates_only_iff {c : Checker} {fixture : Fixture} {content : Octets} {defect : Defect}
    (id : String) :
    c.Dictates fixture content (defect.only id) ↔ c.Dictates fixture content defect := by
  cases defect <;> rfl

theorem Dictates.not_fits {c : Checker} {fixture : Fixture} {content : Octets} {defect : Defect}
    (h : c.Dictates fixture content defect) : ¬c.Fits fixture.name content := by
  rintro ⟨b, hb, hread, hround⟩
  cases defect with
  | unknownType typeName ids =>
    obtain ⟨rfl, hnone⟩ := h
    rw [hb] at hnone
    cases hnone
  | unexpectedFailure typeName id e =>
    obtain ⟨rfl, -, haccept, b', hb', he⟩ := h
    cases hb.symm.trans hb'
    obtain ⟨x, hx⟩ := hread.mpr haccept
    rw [he] at hx
    cases hx
  | unexpectedSuccess typeName id =>
    obtain ⟨rfl, -, hreject, b', x, hb', hx⟩ := h
    cases hb.symm.trans hb'
    have haccept := hread.mp ⟨x, hx⟩
    rw [hreject] at haccept
    cases haccept
  | roundTripMismatch typeName id detail =>
    obtain ⟨rfl, -, haccept, hon, b', x, hb', hx, hlost, -⟩ := h
    cases hb.symm.trans hb'
    exact hlost (hround haccept hon x hx)
  | unreadable => exact h
  | panicked => exact h

def CrashFree (c : Checker) : Prop :=
  ∀ name b, c.registry.get? name = some b → b.CrashFree

theorem crashFree_protocol (config : Config) :
    (Checker.mk TypeRegistry.protocol config).CrashFree := by
  intro name b hb
  obtain ⟨t, -, rfl⟩ := (TypeRegistry.get?_protocol_iff name b).mp hb
  exact t.crashFree_binding

variable {c : Checker}

theorem exists_evaluate_accepted {b : Binding} (hfree : b.CrashFree) (fixture : Fixture)
    {content : Octets} (hb : c.registry.get? fixture.name.typeName = some b)
    (hname : fixture.name.expected = .accept) {x : b.Value}
    (hx : b.codec.decodeText content c.config.decodeOptions = .ok x) :
    ∃ verdict, evaluateWith b fixture content c.config.decodeOptions c.config.run.roundTrip =
        .finished verdict ∧ verdict.About fixture.id ∧
      (verdict = .pass ∧ c.Fits fixture.name content ∨
        ∃ defect, verdict.due fixture = some defect ∧ c.Dictates fixture content defect) := by
  have hreads : (∃ y, b.codec.decodeText content c.config.decodeOptions = .ok y) ↔
      fixture.name.expected = .accept := iff_of_true ⟨x, hx⟩ hname
  unfold evaluateWith
  rw [hfree.readText_eq, hx, hname, Attempt.finished_bind]
  dsimp only
  cases hround : c.config.run.roundTrip with
  | false =>
    exact ⟨.pass, rfl, Verdict.about_pass _,
      .inl ⟨rfl, b, hb, hreads, fun _ hon => (by simp [hround] at hon)⟩⟩
  | true =>
    rw [if_pos rfl]
    by_cases hsurvives : b.Survives c.config.decodeOptions x
    · rw [hsurvives.roundTripFault_eq_none hfree, Attempt.finished_bind]
      refine ⟨.pass, rfl, Verdict.about_pass _, .inl ⟨rfl, b, hb, hreads, fun _ _ y hy => ?_⟩⟩
      cases hx.symm.trans hy
      exact hsurvives
    · obtain ⟨detail, hdetail⟩ := hfree.exists_roundTripFault hsurvives
      rw [hdetail, Attempt.finished_bind]
      exact ⟨_, rfl, Verdict.about_fail rfl rfl,
        .inr ⟨_, rfl, rfl, rfl, hname, hround, b, x, hb, hx, hsurvives, hdetail⟩⟩

theorem exists_evaluate (hc : c.CrashFree) (fixture : Fixture) (content : Octets) :
    ∃ verdict, evaluate c.registry fixture content c.config.decodeOptions c.config.run.roundTrip =
        .finished verdict ∧ verdict.About fixture.id ∧
      (verdict = .pass ∧ c.Fits fixture.name content ∨
        ∃ defect, verdict.due fixture = some defect ∧ c.Dictates fixture content defect) := by
  unfold evaluate
  cases hb : c.registry.get? fixture.name.typeName with
  | none => exact ⟨.unknownType, rfl, Verdict.about_unknownType _, .inr ⟨_, rfl, rfl, hb⟩⟩
  | some b =>
    have hfree := hc _ b hb
    cases hread : b.codec.decodeText content c.config.decodeOptions with
    | ok x =>
      cases hname : fixture.name.expected with
      | accept => exact exists_evaluate_accepted hfree fixture hb hname hread
      | reject =>
        dsimp only
        rw [evaluateWith, hfree.readText_eq, hread, hname, Attempt.finished_bind]
        exact ⟨_, rfl, Verdict.about_fail rfl rfl,
          .inr ⟨_, rfl, rfl, rfl, hname, b, x, hb, hread⟩⟩
    | error e =>
      dsimp only
      rw [evaluateWith, hfree.readText_eq, hread, Attempt.finished_bind]
      cases hname : fixture.name.expected with
      | accept =>
        exact ⟨_, rfl, Verdict.about_fail rfl rfl, .inr ⟨_, rfl, rfl, rfl, hname, b, hb, hread⟩⟩
      | reject =>
        exact ⟨.pass, rfl, Verdict.about_pass _,
          .inl ⟨rfl, b, hb, by simp [hread, hname], by simp [hname]⟩⟩

end Checker

end LspWire
