import LspWire.Proofs.Refusal

/-! Where errors are.
Whatever a type refuses, the error names a place inside the value that was to be read. A type
therefore never complains of the message around the value, nor of a method. -/

namespace LspWire

def Path.Extends (base path : Path) : Prop :=
  ∃ steps, path = { base with steps := base.steps ++ steps }

namespace Path

theorem Extends.refl (path : Path) : path.Extends path := ⟨[], by rw [List.append_nil]⟩

theorem Extends.of_step {base path : Path} {s : PathStep} (h : (base.step s).Extends path) :
    base.Extends path := by
  obtain ⟨steps, rfl⟩ := h
  exact ⟨s :: steps, by simp [step]⟩

theorem not_extends_of_step (base : Path) (s : PathStep) : ¬(base.step s).Extends base := by
  rintro ⟨steps, h⟩
  have hlength := congrArg (fun path : Path => path.steps.length) h
  simp [step] at hlength

theorem Extends.step_unique {base path : Path} {s t : PathStep} (hs : (base.step s).Extends path)
    (ht : (base.step t).Extends path) : s = t := by
  obtain ⟨front, rfl⟩ := hs
  obtain ⟨back, h⟩ := ht
  have hsteps := congrArg Path.steps h
  simp only [steps_step, List.append_assoc, List.cons_append, List.nil_append] at hsteps
  exact (List.cons.inj (List.append_cancel_left hsteps)).1

theorem Extends.text_prefix {base path : Path} (h : base.Extends path) :
    ∃ rest, path.text = base.text ++ rest := by
  obtain ⟨steps, rfl⟩ := h
  exact ⟨String.join (steps.map PathStep.text), by simp [text, String.append_assoc]⟩

end Path

/-- The error is about a place inside the base. -/
def DecodeError.Inside (base : Path) (e : DecodeError) : Prop :=
  ∃ path, e.path? = some path ∧ base.Extends path

theorem DecodeError.Inside.of_step {base : Path} {s : PathStep} {e : DecodeError}
    (h : e.Inside (base.step s)) : e.Inside base := by
  obtain ⟨path, hpath, hextends⟩ := h
  exact ⟨path, hpath, hextends.of_step⟩

theorem DecodeError.inside_of_path {base : Path} {e : DecodeError} (h : e.path? = some base) :
    e.Inside base :=
  ⟨base, h, .refl base⟩

theorem DecodeError.inward_inside : DecodeError.Inward fun cx e => e.Inside cx.path where
  own h _ := inside_of_path h
  of_step h := h.of_step

/-- Every refusal, of a value or of its absence, is about a place inside the context's. -/
abbrev Decoder.Local {α : Type} (d : Decoder α) : Prop := d.Refuses fun cx e => e.Inside cx.path

theorem Union.inside_of_decode {U : Type} {union : String} {encode : U → Option Json}
    {alternatives : List (Alternative U)} {value : Json} {cx : Context} {e : DecodeError}
    (h : decode union encode alternatives value cx = .error e) : e.Inside cx.path := by
  refine DecodeError.inside_of_path ?_
  unfold decode choose at h
  split at h
  · cases h; rfl
  · cases h
  · split at h <;> cases h
    rfl

theorem Schema.local_decoder (s : Schema) : s.decoder.Local :=
  s.refuses DecodeError.inward_inside fun _ _ =>
    Decoder.refuses_present DecodeError.inward_inside fun h => Union.inside_of_decode h

end LspWire
