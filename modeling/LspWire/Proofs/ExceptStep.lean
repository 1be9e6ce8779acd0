/-! Steps that may fail.
A step after a step succeeds when both do; it fails when the first fails, or the second behind
it. So a step for each element of a list succeeds when all of them do, and fails as the first one
that fails. -/

namespace LspWire

variable {ε α β : Type}

theorem ok_bind (a : α) (f : α → Except ε β) : (Except.ok a >>= f) = f a := rfl

theorem bind_eq_ok_iff {x : Except ε α} {f : α → Except ε β} {b : β} :
    (x >>= f) = .ok b ↔ ∃ a, x = .ok a ∧ f a = .ok b := by
  constructor
  · intro h
    cases x with
    | error e => cases h
    | ok a => exact ⟨a, rfl, h⟩
  · rintro ⟨a, rfl, h⟩
    exact h

theorem bind_eq_error_iff {x : Except ε α} {f : α → Except ε β} {e : ε} :
    (x >>= f) = .error e ↔ x = .error e ∨ ∃ a, x = .ok a ∧ f a = .error e := by
  constructor
  · intro h
    cases x with
    | error e' => cases h; exact .inl rfl
    | ok a => exact .inr ⟨a, rfl, h⟩
  · rintro (rfl | ⟨a, rfl, h⟩)
    · rfl
    · exact h

theorem toOption_eq_some_iff {x : Except ε α} {a : α} : x.toOption = some a ↔ x = .ok a := by
  cases x with
  | error e => exact ⟨fun h => (by cases h), fun h => (by cases h)⟩
  | ok b => exact ⟨fun h => (by cases h; rfl), fun h => (by cases h; rfl)⟩

theorem map_eq_ok_iff {x : Except ε α} {f : α → β} {b : β} :
    x.map f = .ok b ↔ ∃ a, x = .ok a ∧ f a = b := by
  constructor
  · intro h
    cases x with
    | error e => cases h
    | ok a => cases h; exact ⟨a, rfl, rfl⟩
  · rintro ⟨a, rfl, rfl⟩
    rfl

theorem map_eq_error_iff {x : Except ε α} {f : α → β} {e : ε} :
    x.map f = .error e ↔ x = .error e := by
  constructor
  · intro h
    cases x with
    | error e' => cases h; rfl
    | ok a => cases h
  · rintro rfl
    rfl

theorem exists_map_eq_ok_iff {x : Except ε α} {f : α → β} :
    (∃ b, x.map f = .ok b) ↔ ∃ a, x = .ok a := by
  simp only [map_eq_ok_iff]
  exact ⟨fun ⟨_, a, ha, _⟩ => ⟨a, ha⟩, fun ⟨a, ha⟩ => ⟨f a, a, ha, rfl⟩⟩

theorem mapError_eq_ok_iff {ε' : Type} {x : Except ε α} {f : ε → ε'} {a : α} :
    x.mapError f = .ok a ↔ x = .ok a := by
  cases x with
  | error e => exact ⟨fun h => (by cases h), fun h => (by cases h)⟩
  | ok b => exact ⟨fun h => (by cases h; rfl), fun h => (by cases h; rfl)⟩

theorem exists_eq_error_iff {x : Except ε α} : (∃ e, x = .error e) ↔ ¬ ∃ a, x = .ok a := by
  cases x <;> simp

section

variable {f : α → Except ε β} {as : List α}

theorem mapM_eq_ok_iff {bs : List β} :
    as.mapM f = .ok bs ↔ bs.length = as.length ∧
      ∀ (i : Nat) a, as[i]? = some a → ∃ b, bs[i]? = some b ∧ f a = .ok b := by
  induction as generalizing bs with
  | nil =>
    rw [List.mapM_nil]
    constructor
    · intro h
      cases h
      exact ⟨rfl, fun i a ha => (by cases ha)⟩
    · rintro ⟨hlength, -⟩
      rw [List.length_eq_zero_iff.mp hlength]
      rfl
  | cons first rest ih =>
    rw [List.mapM_cons, bind_eq_ok_iff]
    constructor
    · rintro ⟨b, hb, h⟩
      obtain ⟨others, hothers, h⟩ := bind_eq_ok_iff.mp h
      cases h
      obtain ⟨hlength, hsteps⟩ := ih.mp hothers
      refine ⟨congrArg (· + 1) hlength, fun i a ha => ?_⟩
      cases i with
      | zero => cases ha; exact ⟨b, rfl, hb⟩
      | succ i => exact hsteps i a ha
    · rintro ⟨hlength, hsteps⟩
      obtain ⟨b, hb, hfirst⟩ := hsteps 0 first rfl
      cases bs with
      | nil => cases hb
      | cons head others =>
        cases hb
        have hothers : rest.mapM f = .ok others :=
          ih.mpr ⟨Nat.succ.inj hlength, fun i a ha => hsteps (i + 1) a ha⟩
        exact ⟨b, hfirst, bind_eq_ok_iff.mpr ⟨others, hothers, rfl⟩⟩

theorem mapM_eq_error_iff {e : ε} :
    as.mapM f = .error e ↔ ∃ (i : Nat) (a : α), as[i]? = some a ∧ f a = .error e ∧
      ∀ j < i, ∀ other, as[j]? = some other → ∃ b, f other = .ok b := by
  induction as with
  | nil =>
    rw [List.mapM_nil]
    exact ⟨fun h => (by cases h), fun ⟨_, _, ha, _⟩ => (by cases ha)⟩
  | cons first rest ih =>
    rw [List.mapM_cons, bind_eq_error_iff]
    constructor
    · rintro (h | ⟨b, hb, h⟩)
      · exact ⟨0, first, rfl, h, fun j hj => absurd hj (Nat.not_lt_zero j)⟩
      · rcases bind_eq_error_iff.mp h with h | ⟨_, -, h⟩
        · obtain ⟨i, a, ha, hfails, hbefore⟩ := ih.mp h
          refine ⟨i + 1, a, ha, hfails, fun j hj other hother => ?_⟩
          cases j with
          | zero => cases hother; exact ⟨b, hb⟩
          | succ j => exact hbefore j (Nat.lt_of_succ_lt_succ hj) other hother
        · cases h
    · rintro ⟨i, a, ha, hfails, hbefore⟩
      cases i with
      | zero => cases ha; exact .inl hfails
      | succ i =>
        obtain ⟨b, hb⟩ := hbefore 0 (Nat.succ_pos i) first rfl
        have hrest : rest.mapM f = .error e :=
          ih.mpr ⟨i, a, ha, hfails, fun j hj => hbefore (j + 1) (Nat.succ_lt_succ hj)⟩
        exact .inr ⟨b, hb, bind_eq_error_iff.mpr (.inl hrest)⟩

theorem exists_mapM_eq_ok_iff : (∃ bs, as.mapM f = .ok bs) ↔ ∀ a ∈ as, ∃ b, f a = .ok b := by
  constructor
  · rintro ⟨bs, hbs⟩ a ha
    obtain ⟨i, hi⟩ := List.mem_iff_getElem?.mp ha
    obtain ⟨b, -, hb⟩ := (mapM_eq_ok_iff.mp hbs).2 i a hi
    exact ⟨b, hb⟩
  · intro h
    cases hsteps : as.mapM f with
    | ok bs => exact ⟨bs, rfl⟩
    | error e =>
      obtain ⟨i, a, ha, hfails, -⟩ := mapM_eq_error_iff.mp hsteps
      exact absurd (h a (List.mem_of_getElem? ha)) (exists_eq_error_iff.mp ⟨e, hfails⟩)

end

end LspWire
