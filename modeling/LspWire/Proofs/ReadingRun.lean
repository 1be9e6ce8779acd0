import LspWire.Proofs.FieldReading
import LspWire.Proofs.OrderedMembers
import LspWire.Schema.Decode
import Mathlib.Data.List.Find
import Mathlib.Tactic.Tauto

/-! What a reading gives.
`Gives` describes a reading by the names it asks for and by what it answers from the members and
the place alone; single accesses have such a description and it composes. An object is then read as
described, and a key that was not asked for is refused behind everything else. -/

namespace LspWire

namespace ObjectReader

theorem consume_eq (reader : ObjectReader) (name : String) :
    reader.consume name = { reader with consumed := (reader.consume name).consumed } := by
  unfold consume
  split <;> rfl

theorem mem_consumed_consume_iff (reader : ObjectReader) (name other : String) :
    other ∈ (reader.consume name).consumed ↔
      other ∈ reader.consumed ∨ other = name ∧ reader.contains other = true := by
  unfold consume
  split
  · next h =>
    rw [List.mem_cons]
    constructor
    · rintro (rfl | hm)
      · exact .inr ⟨rfl, h⟩
      · exact .inl hm
    · rintro (hm | ⟨rfl, -⟩)
      · exact .inr hm
      · exact .inl rfl
  · next h => exact ⟨.inl, fun hm => hm.elim id fun ⟨heq, hc⟩ => absurd (heq ▸ hc) h⟩

end ObjectReader

namespace Reading

variable {α β : Type}

/-- From any reader, the reading answers `result`; if that is a value, exactly the names asked for
that the object has have been added to those remembered. -/
def Gives (reading : Reading α) (names : List String)
    (result : Members → Context → Except DecodeError α) : Prop :=
  ∀ reader : ObjectReader, ∃ consumed : List String,
    reading.run reader = (result reader.members reader.context, { reader with consumed }) ∧
    ∀ a, result reader.members reader.context = .ok a →
      ∀ name, name ∈ consumed ↔
        name ∈ reader.consumed ∨ name ∈ names ∧ reader.contains name = true

theorem Gives.congr {reading : Reading α} {names : List String}
    {result result' : Members → Context → Except DecodeError α} (h : Gives reading names result)
    (heq : ∀ members cx, result members cx = result' members cx) : Gives reading names result' := by
  have hresult : result = result' := funext fun members => funext fun cx => heq members cx
  exact hresult ▸ h

theorem gives_pure (a : α) : Gives (pure a : Reading α) [] fun _ _ => .ok a := by
  intro reader
  exact ⟨reader.consumed, rfl, fun _ _ name => by simp⟩

theorem gives_access (name : String) (read : FieldReader α) :
    Gives (access name read) [name] fun members cx => read (members.get? name) cx := by
  intro reader
  refine ⟨(reader.consume name).consumed, ?_, fun _ _ other => ?_⟩
  · exact congrArg (Prod.mk _) (reader.consume_eq name)
  · rw [reader.mem_consumed_consume_iff, List.mem_singleton]

theorem run_bind (reading : Reading α) (next : α → Reading β) (reader : ObjectReader) :
    (reading >>= next).run reader =
      match reading.run reader with
      | (.ok a, reader) => (next a).run reader
      | (.error e, reader) => (.error e, reader) := by
  unfold Reading.run
  change StateT.run (ExceptT.run (ExceptT.bind reading next)) reader = _
  unfold ExceptT.bind ExceptT.run ExceptT.mk
  rw [StateT.run_bind]
  change (match StateT.run reading reader with
    | (a, s) => StateT.run (ExceptT.bindCont next a) s) = _
  split
  next a s h =>
    rw [h]
    cases a <;> rfl

theorem gives_bind {reading : Reading α} {next : α → Reading β} {names names' : List String}
    {result : Members → Context → Except DecodeError α}
    {result' : α → Members → Context → Except DecodeError β} (h : Gives reading names result)
    (h' : ∀ a, Gives (next a) names' (result' a)) :
    Gives (reading >>= next) (names ++ names') fun members cx =>
      result members cx >>= fun a => result' a members cx := by
  intro reader
  obtain ⟨consumed, hrun, hconsumed⟩ := h reader
  rw [run_bind, hrun]
  cases hresult : result reader.members reader.context with
  | error e =>
    dsimp only
    rw [hresult]
    exact ⟨consumed, rfl, fun _ h => by cases h⟩
  | ok a =>
    obtain ⟨consumed', hrun', hconsumed'⟩ := h' a { reader with consumed }
    dsimp only
    rw [hresult]
    refine ⟨consumed', hrun', fun b hb name => ?_⟩
    rw [hconsumed' b hb name, hconsumed a hresult name, List.mem_append]
    simp only [ObjectReader.contains]
    tauto

/-- The first key of an object, in order, that is none of the names. -/
def stray? (names : List String) (members : Members) : Option String :=
  members.names.find? fun name => !names.contains name

theorem stray?_eq_none_iff (names : List String) (members : Members) :
    stray? names members = none ↔ ∀ name ∈ members.names, name ∈ names := by
  simp [stray?]

theorem stray?_eq_some_iff {names : List String} {members : Members} {key : String}
    (hmembers : Ascending members) :
    stray? names members = some key ↔
      key ∈ members.names ∧ key ∉ names ∧ ∀ other ∈ members.names, other ∉ names → key ≤ other := by
  have hascending : members.names.Pairwise (· < ·) := List.pairwise_map.mpr hmembers
  have hfound : ∀ found, stray? names members = some found →
      found ∈ members.names ∧ found ∉ names ∧
        ∀ other ∈ members.names, other ∉ names → found ≤ other := by
    intro found h
    obtain ⟨hfound, front, back, hsplit, hfront⟩ := List.find?_eq_some_iff_append.mp h
    rw [hsplit, List.pairwise_append, List.pairwise_cons] at hascending
    refine ⟨by simp [hsplit], by simpa using hfound, fun other hother hread => ?_⟩
    rw [hsplit, List.mem_append, List.mem_cons] at hother
    rcases hother with hother | rfl | hother
    · exact absurd (by simpa using hfront other hother) hread
    · exact String.le_refl _
    · exact String.not_lt.mp (String.lt_asymm (hascending.2.1.1 other hother))
  refine ⟨hfound key, fun ⟨hkey, hread, hleast⟩ => ?_⟩
  cases hstray : stray? names members with
  | none => exact absurd ((stray?_eq_none_iff names members).mp hstray key hkey) hread
  | some found =>
    obtain ⟨hmem, hunread, hle⟩ := hfound found hstray
    exact congrArg some (String.le_antisymm (hle key hkey hread) (hleast found hmem hunread))

/-- What the end of a reading answers when it has asked for `names`. -/
def closing (names : List String) (members : Members) (cx : Context) : Except DecodeError Unit :=
  if cx.options.rejectUnknownFields then
    match stray? names members with
    | some name => .error (.unknownField cx.path name)
    | none => .ok ()
  else .ok ()

theorem closing_eq_ok_iff (names : List String) (members : Members) (cx : Context) :
    closing names members cx = .ok () ↔
      (cx.options.rejectUnknownFields = true → ∀ name ∈ members.names, name ∈ names) := by
  rw [← stray?_eq_none_iff, closing]
  split
  · next h =>
    cases stray? names members with
    | none => simp
    | some name => simp [h]
  · next h => simp [h]

theorem closing_eq_error {names : List String} {members : Members} {cx : Context} {e : DecodeError}
    (h : closing names members cx = .error e) :
    ∃ name ∈ members.names, name ∉ names ∧ e = .unknownField cx.path name := by
  unfold closing at h
  split at h
  · cases hstray : stray? names members with
    | none => rw [hstray] at h; cases h
    | some name =>
      rw [hstray] at h
      cases h
      have hname := List.find?_some hstray
      exact ⟨name, List.mem_of_find?_eq_some hstray, by simpa using hname, rfl⟩
  · cases h

theorem closing_eq_error_iff {names : List String} {members : Members} (hmembers : Ascending members)
    {cx : Context} {e : DecodeError} :
    closing names members cx = .error e ↔ cx.options.rejectUnknownFields = true ∧
      ∃ key ∈ members.names, key ∉ names ∧
        (∀ other ∈ members.names, other ∉ names → key ≤ other) ∧ e = .unknownField cx.path key := by
  unfold closing
  split
  · next hreject =>
    cases hstray : stray? names members with
    | none =>
      refine ⟨fun h => (by cases h), fun ⟨_, key, hkey, hunread, _⟩ => ?_⟩
      exact absurd ((stray?_eq_none_iff names members).mp hstray key hkey) hunread
    | some found =>
      constructor
      · intro h
        cases h
        obtain ⟨hfound, hunread, hleast⟩ := (stray?_eq_some_iff hmembers).mp hstray
        exact ⟨hreject, found, hfound, hunread, hleast, rfl⟩
      · rintro ⟨-, key, hkey, hunread, hleast, rfl⟩
        have hsome := (stray?_eq_some_iff hmembers).mpr ⟨hkey, hunread, hleast⟩
        rw [Option.some.inj (hstray.symm.trans hsome)]
  · next hreject => exact ⟨fun h => (by cases h), fun ⟨h, _⟩ => absurd h hreject⟩

theorem unread?_eq_stray? {reader : ObjectReader} {names : List String}
    (h : ∀ name, name ∈ reader.consumed ↔ name ∈ names ∧ reader.contains name = true) :
    reader.unread? = stray? names reader.members := by
  have hkey : ∀ name ∈ reader.members.names,
      (!reader.consumed.contains name) = !names.contains name := by
    intro name hname
    have hcontains : reader.contains name = true := by
      rw [ObjectReader.contains, Members.contains_eq_isSome_get?, ← Members.mem_names_iff]
      exact hname
    have hiff : name ∈ reader.consumed ↔ name ∈ names := by
      rw [h name]
      simp [hcontains]
    rw [Bool.eq_iff_iff]
    simp [hiff]
  exact List.find?_congr hkey

theorem run_finish (reader : ObjectReader) :
    finish.run reader =
      (if reader.context.options.rejectUnknownFields then
        match reader.unread? with
        | some name => .error (.unknownField reader.context.path name)
        | none => .ok ()
      else .ok (), reader) :=
  rfl

theorem decode_object {reading : Reading α} {names : List String}
    {result : Members → Context → Except DecodeError α} (h : Gives reading names result)
    (members : Members) (cx : Context) :
    reading.decode (.object members) cx =
      result members cx >>= fun a => closing names members cx >>= fun _ => .ok a := by
  obtain ⟨consumed, hrun, hconsumed⟩ := h ⟨members, cx, []⟩
  change (Reading.run (reading >>= fun a => finish >>= fun _ => pure a) ⟨members, cx, []⟩).1 = _
  rw [run_bind, hrun]
  dsimp only at hconsumed ⊢
  cases hresult : result members cx with
  | error e => rfl
  | ok a =>
    have hunread : ObjectReader.unread? ⟨members, cx, consumed⟩ = stray? names members := by
      refine unread?_eq_stray? fun name => ?_
      rw [hconsumed a hresult name]
      simp [ObjectReader.contains]
    dsimp only
    rw [run_bind]
    rw [run_finish, hunread]
    change _ = closing names members cx >>= fun _ => Except.ok a
    unfold closing
    cases cx.options.rejectUnknownFields with
    | false => rfl
    | true => cases stray? names members <;> rfl

theorem Gives.decode_eq_ok_iff {reading : Reading α} {names : List String}
    {result : Members → Context → Except DecodeError α} (h : Gives reading names result)
    {value : Json} {cx : Context} {a : α} :
    reading.decode value cx = .ok a ↔
      ∃ members : Members, value = .object members ∧ result members cx = .ok a ∧
        (cx.options.rejectUnknownFields = true → ∀ name ∈ members.names, name ∈ names) := by
  cases value with
  | object members =>
    rw [decode_object h, bind_eq_ok_iff]
    constructor
    · rintro ⟨a', hresult, hclosing⟩
      obtain ⟨_, hnames, ha⟩ := bind_eq_ok_iff.mp hclosing
      cases ha
      exact ⟨members, rfl, hresult, (closing_eq_ok_iff names members cx).mp hnames⟩
    · rintro ⟨_, hmembers, hresult, hnames⟩
      cases hmembers
      exact ⟨a, hresult, bind_eq_ok_iff.mpr
        ⟨(), (closing_eq_ok_iff names members cx).mpr hnames, rfl⟩⟩
  | _ => exact ⟨fun h => (by cases h), fun ⟨_, h, _⟩ => (by cases h)⟩

theorem Gives.decode_eq_error_iff {reading : Reading α} {names : List String}
    {result : Members → Context → Except DecodeError α} (h : Gives reading names result)
    {members : Members} {cx : Context} {e : DecodeError} :
    reading.decode (.object members) cx = .error e ↔
      result members cx = .error e ∨
        (∃ a, result members cx = .ok a) ∧ closing names members cx = .error e := by
  rw [decode_object h, bind_eq_error_iff]
  refine or_congr_right ?_
  constructor
  · rintro ⟨a, hresult, hclosing⟩
    rcases bind_eq_error_iff.mp hclosing with hclosing | ⟨_, _, hok⟩
    · exact ⟨⟨a, hresult⟩, hclosing⟩
    · cases hok
  · rintro ⟨⟨a, hresult⟩, hclosing⟩
    exact ⟨a, hresult, bind_eq_error_iff.mpr (.inl hclosing)⟩

end Reading

def Fields.collect : (fields : Fields) → Members → Context → Except DecodeError fields.Val
  | .nil, _, _ => .ok ()
  | .cons form type rest, members, cx => do
    let value ← form.mode.reader type.decoder form.key (members.get? form.key) cx
    let values ← rest.collect members cx
    return (value, values)

theorem Fields.collect_cons_eq_ok_iff {form : FieldForm} {type : Schema} {rest : Fields}
    {members : Members} {cx : Context} {value : form.mode.Of type.Val} {values : rest.Val} :
    (Fields.cons form type rest).collect members cx = .ok (value, values) ↔
      form.mode.reader type.decoder form.key (members.get? form.key) cx = .ok value ∧
        rest.collect members cx = .ok values := by
  refine bind_eq_ok_iff.trans ⟨?_, ?_⟩
  · rintro ⟨held, hheld, h⟩
    obtain ⟨others, hothers, heq⟩ := bind_eq_ok_iff.mp h
    cases heq
    exact ⟨hheld, hothers⟩
  · rintro ⟨hvalue, hvalues⟩
    exact ⟨value, hvalue, bind_eq_ok_iff.mpr ⟨values, hvalues, rfl⟩⟩

theorem Fields.gives_read : ∀ fields : Fields, Reading.Gives fields.read fields.keys fields.collect
  | .nil => Reading.gives_pure ()
  | .cons form type rest => by
    have hrest := Fields.gives_read rest
    have h := Reading.gives_bind
      (Reading.gives_access form.key (form.mode.reader type.decoder form.key)) fun value =>
        Reading.gives_bind hrest fun values => Reading.gives_pure (value, values)
    rw [List.append_nil] at h
    exact h

end LspWire
