import LspWire.Proofs.ErrorPlace
import LspWire.Proofs.TypedMessage

/-! What is wrong with a message that is refused.
The first reading refuses a message outside its parameters. A reading with the types of a method,
after a first reading was through, finds the same frame, so what it refuses is in the parameters. -/

namespace LspWire

section

variable {P : Type} {params : Decoder P} {members : Members} {cx : Context}

theorem RequestMessage.decode_of_frame {id : NumberOrString} {method : String}
    (frame : RequestFrame members cx id method) :
    decode method params (.object members) cx =
      (FieldReader.required params "params" (members.get? "params") cx).map (mk id) := by
  cases hparams : FieldReader.required params "params" (members.get? "params") cx with
  | ok p => exact decode_eq_ok_iff.mpr ⟨members, rfl, frame, hparams⟩
  | error e =>
    unfold decode
    rw [(expectKind_eq_ok_iff _ _ _).mpr frame.classify]
    refine (gives_read method params).decode_eq_error_iff.mpr (.inl ?_)
    rw [(FieldReader.literal_eq_ok_iff _ _ _ _).mpr frame.version, frame.id,
      (FieldReader.literal_eq_ok_iff _ _ _ _).mpr frame.method, hparams]
    rfl

theorem NotificationMessage.decode_of_frame {method : String}
    (frame : NotificationFrame members cx method) :
    decode method params (.object members) cx =
      (FieldReader.required params "params" (members.get? "params") cx).map mk := by
  cases hparams : FieldReader.required params "params" (members.get? "params") cx with
  | ok p => exact decode_eq_ok_iff.mpr ⟨members, rfl, frame, hparams⟩
  | error e =>
    unfold decode
    rw [(expectKind_eq_ok_iff _ _ _).mpr frame.classify]
    refine (gives_read method params).decode_eq_error_iff.mpr (.inl ?_)
    rw [(FieldReader.literal_eq_ok_iff _ _ _ _).mpr frame.version,
      (FieldReader.literal_eq_ok_iff _ _ _ _).mpr frame.method, hparams]
    rfl

end

/-- What may be wrong with a message of a known method: its parameters are missing, or refused at
a place inside them. -/
def ParamsFault (params : Schema) (given : Option Json) (cx : Context) (e : DecodeError) : Prop :=
  given = none ∧ e = .missingRequiredField cx.path "params" ∨
    ∃ held, given = some held ∧ params.decoder.decode held (cx.field "params") = .error e ∧
      e.Inside (cx.field "params").path

theorem ParamsFault.of_required {params : Schema} {given : Option Json} {cx : Context}
    {e : DecodeError}
    (h : FieldReader.required params.decoder "params" given cx = .error e) :
    ParamsFault params given cx e := by
  cases given with
  | some held => exact .inr ⟨held, rfl, h, params.local_decoder.decode h⟩
  | none =>
    refine .inl ⟨rfl, ?_⟩
    by_cases habsent : params.suppliesAbsent = true
    · cases params with
      | noParams => cases h
      | _ => cases habsent
    · rw [Bool.not_eq_true] at habsent
      change params.decoder.absent "params" cx = .error e at h
      rw [Schema.decoder_absent habsent] at h
      cases h
      rfl

theorem DecodeError.Inside.ne_unknownMethod {base : Path} {e : DecodeError} (h : e.Inside base)
    (method : String) : e ≠ .unknownMethod method := by
  rintro rfl
  obtain ⟨_, hpath, -⟩ := h
  cases hpath

theorem ParamsFault.inside {params : Schema} {given : Option Json} {cx : Context} {e : DecodeError}
    (h : ParamsFault params given cx e) : e.Inside cx.path := by
  rcases h with ⟨-, rfl⟩ | ⟨_, -, -, h⟩
  · exact DecodeError.inside_of_path rfl
  · exact h.of_step

theorem ParamsFault.exists_text {params : Schema} {held : Json} {options : DecodeOptions}
    {e : DecodeError} (h : ParamsFault params (some held) (.root options) e) :
    ∃ path rest, e.path? = some path ∧ path.text = "$.params" ++ rest := by
  rcases h with ⟨hnone, -⟩ | ⟨_, -, -, path, hpath, hextends⟩
  · cases hnone
  · obtain ⟨rest, hrest⟩ := hextends.text_prefix
    exact ⟨path, rest, hpath, hrest⟩

/-- What only the first reading refuses: the kind of a message, a key it may not have, or what
stands under the keys of its frame. -/
def FrameFault (cx : Context) (e : DecodeError) : Prop :=
  (∃ expected found, e = .envelopeMismatch expected found) ∨
    (∃ key, e = .unknownField cx.path key) ∨
      ∃ key ∈ ["jsonrpc", "id", "method"],
        e = .missingRequiredField cx.path key ∨ e.Inside (cx.field key).path

theorem ParamsFault.not_frameFault {params : Schema} {given : Option Json} {cx : Context}
    {e : DecodeError} (h : ParamsFault params given cx e) : ¬FrameFault cx e := by
  have hkey : ∀ key ∈ ["jsonrpc", "id", "method"], key ≠ "params" := by decide
  rcases h with ⟨-, rfl⟩ | ⟨_, -, -, path, hpath, hextends⟩
  · rintro (⟨_, _, h⟩ | ⟨_, h⟩ | ⟨key, hmem, h | ⟨_, hpath, hextends⟩⟩)
    · cases h
    · cases h
    · cases h
      exact hkey _ hmem rfl
    · cases hpath
      exact Path.not_extends_of_step _ _ hextends
  · rintro (⟨_, _, rfl⟩ | ⟨_, rfl⟩ | ⟨key, hmem, rfl | ⟨_, hpath', hextends'⟩⟩)
    · cases hpath
    · cases hpath
      exact Path.not_extends_of_step _ _ hextends
    · cases hpath
      exact Path.not_extends_of_step _ _ hextends
    · rw [hpath] at hpath'
      cases hpath'
      have hstep := hextends'.step_unique hextends
      cases hstep
      exact hkey _ hmem rfl

end LspWire
