import LspWire.Proofs.ExceptStep
import LspWire.Schema.Encode
import LspWire.Schema.Decode

/-! What the types without parts read.
Each reads exactly the documents that its values are written as, of numbers only those in its range.
A value that is absent is supplied by one type alone. -/

namespace LspWire

def Schema.suppliesAbsent : Schema → Bool
  | .noParams => true
  | _ => false

theorem Schema.decoder_absent {s : Schema} (h : s.suppliesAbsent = false) (name : String)
    (cx : Context) : s.decoder.absent name cx = .error (cx.missing name) := by
  cases s with
  | noParams => cases h
  | _ => rfl

namespace IntegerRange

theorem contains_iff (range : IntegerRange) (i : Int) :
    range.contains i = true ↔ range.least ≤ i ∧ i ≤ range.greatest := by
  simp [contains]

theorem decode_eq_ok_iff (range : IntegerRange) (value : Json) (cx : Context) (n : Int) :
    range.decode value cx = .ok n ↔
      value = .number (.integer n) ∧ range.least ≤ n ∧ n ≤ range.greatest := by
  unfold decode
  split
  · split
    · next i =>
      split
      · next h =>
        rw [contains_iff] at h
        constructor
        · intro hi
          cases hi
          exact ⟨rfl, h⟩
        · rintro ⟨hi, -⟩
          cases hi
          rfl
      · next h =>
        rw [contains_iff] at h
        refine ⟨fun hi => (by cases hi), ?_⟩
        rintro ⟨hi, hbounds⟩
        cases hi
        exact absurd hbounds h
    · refine ⟨fun h => ?_, fun ⟨h, _⟩ => (by cases h)⟩
      split at h
      · split at h <;> cases h
      · cases h
  · next other hne =>
    exact ⟨fun h => (by cases h), fun ⟨h, _⟩ => absurd h (hne _)⟩

end IntegerRange

namespace Decoder

theorem integer_decode_eq_ok_iff (value : Json) (cx : Context) (n : Int32) :
    integer.decode value cx = .ok n ↔ value = .number (.integer n.toInt) := by
  refine map_eq_ok_iff.trans ⟨?_, ?_⟩
  · rintro ⟨i, hi, rfl⟩
    obtain ⟨rfl, hleast, hgreatest⟩ := (IntegerRange.decode_eq_ok_iff _ _ _ _).mp hi
    rw [Int32.toInt_ofInt_of_le hleast (Int.lt_add_one_of_le hgreatest)]
  · rintro rfl
    refine ⟨n.toInt, ?_, Int32.ofInt_toInt n⟩
    exact (IntegerRange.decode_eq_ok_iff _ _ _ _).mpr
      ⟨rfl, Int32.le_toInt n, Int.le_of_lt_add_one (Int32.toInt_lt n)⟩

theorem uinteger_decode_eq_ok_iff (value : Json) (cx : Context) (n : UInt32) :
    uinteger.decode value cx = .ok n ↔
      value = .number (.integer n.toNat) ∧ (n.toNat : Int) ≤ IntegerRange.uinteger.greatest := by
  refine map_eq_ok_iff.trans ⟨?_, ?_⟩
  · rintro ⟨i, hi, rfl⟩
    obtain ⟨rfl, hleast, hgreatest⟩ := (IntegerRange.decode_eq_ok_iff _ _ _ _).mp hi
    simp only [IntegerRange.uinteger] at hleast hgreatest ⊢
    have hnat : (UInt32.ofNat i.toNat).toNat = i.toNat := UInt32.toNat_ofNat_of_lt' (by
      simp [UInt32.size]; omega)
    rw [hnat, Int.toNat_of_nonneg hleast]
    exact ⟨rfl, hgreatest⟩
  · rintro ⟨rfl, hgreatest⟩
    refine ⟨n.toNat, ?_, by simp⟩
    exact (IntegerRange.decode_eq_ok_iff _ _ _ _).mpr ⟨rfl, Int.natCast_nonneg _, hgreatest⟩

theorem string_decode_eq_ok_iff (value : Json) (cx : Context) (s : String) :
    string.decode value cx = .ok s ↔ value = .string s := by
  cases value with
  | string found => exact ⟨fun h => (by cases h; rfl), fun h => (by cases h; rfl)⟩
  | _ => exact ⟨fun h => (by cases h), fun h => (by cases h)⟩

theorem literal_decode_eq_ok_iff (word : String) (value : Json) (cx : Context) :
    (literal word).decode value cx = .ok () ↔ value = .string word := by
  cases value with
  | string found =>
    by_cases h : found = word
    · rw [h]
      exact ⟨fun _ => rfl, fun _ => if_pos rfl⟩
    · constructor
      · intro hok
        have herror : (literal word).decode (.string found) cx =
            .error (.literalMismatch cx.path word found) := if_neg h
        rw [herror] at hok
        cases hok
      · intro heq
        cases heq
        exact absurd rfl h
  | _ => exact ⟨fun h => (by cases h), fun h => (by cases h)⟩

theorem null_decode_eq_ok_iff (value : Json) (cx : Context) :
    null.decode value cx = .ok () ↔ value = .null := by
  cases value with
  | null => exact ⟨fun _ => rfl, fun _ => rfl⟩
  | _ => exact ⟨fun h => (by cases h), fun h => (by cases h)⟩

theorem numberOrString_decode_eq_ok_iff (value : Json) (cx : Context) (x : NumberOrString) :
    numberOrString.decode value cx = .ok x ↔ value = x.write := by
  cases value with
  | number n =>
    refine map_eq_ok_iff.trans ⟨?_, ?_⟩
    · rintro ⟨i, hi, rfl⟩
      exact (integer_decode_eq_ok_iff _ _ _).mp hi
    · intro h
      cases x with
      | number i => exact ⟨i, (integer_decode_eq_ok_iff _ _ _).mpr h, rfl⟩
      | string s => cases h
  | string s =>
    cases x with
    | number i => exact ⟨fun h => (by cases h), fun h => (by cases h)⟩
    | string s' => exact ⟨fun h => (by cases h; rfl), fun h => (by cases h; rfl)⟩
  | _ => cases x <;> exact ⟨fun h => (by cases h), fun h => (by cases h)⟩

theorem integerEnum_decode_eq_ok_iff (e : IntegerEnum) (value : Json) (cx : Context)
    (i : Fin e.members.length) :
    (integerEnum e).decode value cx = .ok i ↔
      ∃ n : UInt32, uinteger.decode value cx = .ok n ∧ e.ofValue? n.toNat = some i := by
  refine bind_eq_ok_iff.trans (exists_congr fun n => and_congr_right fun _ => ?_)
  cases e.ofValue? n.toNat with
  | none => exact ⟨fun h => (by cases h), fun h => (by cases h)⟩
  | some j => exact ⟨fun h => (by cases h; rfl), fun h => (by cases h; rfl)⟩

theorem wordEnum_decode_eq_ok_iff (e : WordEnum) (value : Json) (cx : Context)
    (i : Fin e.members.length) :
    (wordEnum e).decode value cx = .ok i ↔
      ∃ word, value = .string word ∧ e.ofWord? word = some i := by
  refine bind_eq_ok_iff.trans (exists_congr fun word =>
    and_congr (string_decode_eq_ok_iff value cx word) ?_)
  cases e.ofWord? word with
  | none => exact ⟨fun h => (by cases h), fun h => (by cases h)⟩
  | some j => exact ⟨fun h => (by cases h; rfl), fun h => (by cases h; rfl)⟩

/-- The mark of a document: a word or nothing at all; other values are no marks. -/
def markUnder (key : String) (value : Json) : Option (Option String) :=
  match value.get? key with
  | none => some none
  | some (.string word) => some (some word)
  | some _ => none

theorem markUnder_eq_some_iff {key : String} {value : Json} {mark : Option String} :
    markUnder key value = some mark ↔ value.get? key = mark.map Json.string := by
  rw [markUnder]
  split
  · next hnone => cases mark <;> simp [hnone]
  · next word hword => cases mark <;> simp [hword]
  · next other hother hheld =>
    cases mark with
    | none => simp [hheld]
    | some word => simpa [hheld] using hother word

theorem marked_decode_eq {α : Type} (name key : String)
    (select : Option String → Option (Json → Context → Except DecodeError α)) (value : Json)
    (cx : Context) :
    (marked name key select).decode value cx =
      match (markUnder key value).bind select with
      | some decode => decode value cx
      | none => .error (.unionNoMatch cx.path name) :=
  rfl

theorem exists_select_of_marked {α : Type} {name key : String}
    {select : Option String → Option (Json → Context → Except DecodeError α)} {value : Json}
    {cx : Context} {x : α} (h : (marked name key select).decode value cx = .ok x) :
    ∃ word decode, markUnder key value = some word ∧ select word = some decode ∧
      decode value cx = .ok x := by
  rw [marked_decode_eq] at h
  split at h
  · next decode hselect =>
    obtain ⟨word, hmark, hword⟩ := Option.bind_eq_some_iff.mp hselect
    exact ⟨word, decode, hmark, hword, h⟩
  · cases h

theorem openEnum_decode_eq_ok_iff (e : WordEnum) (value : Json) (cx : Context) (w : OpenWord e) :
    (openEnum e).decode value cx = .ok w ↔ ∃ word, value = .string word ∧ .ofWord e word = w := by
  refine bind_eq_ok_iff.trans (exists_congr fun word =>
    and_congr (string_decode_eq_ok_iff value cx word) ?_)
  exact ⟨fun h => (by cases h; rfl), fun h => (by cases h; rfl)⟩

end Decoder

theorem IntegerEnum.value_of_ofValue? {e : IntegerEnum} {n : Nat} {i : Fin e.members.length}
    (h : e.ofValue? n = some i) : e.value i = n := by
  have hfound := (List.findFinIdx?_eq_some_iff.mp h).1
  simpa [IntegerEnum.value] using hfound

theorem WordEnum.word_of_ofWord? {e : WordEnum} {word : String} {i : Fin e.members.length}
    (h : e.ofWord? word = some i) : e.word i = word := by
  have hfound := (List.findFinIdx?_eq_some_iff.mp h).1
  simpa [WordEnum.word] using hfound

theorem OpenWord.word_ofWord (e : WordEnum) (word : String) :
    (OpenWord.ofWord e word).word = word := by
  unfold OpenWord.ofWord
  cases h : e.ofWord? word with
  | none => rfl
  | some i => exact WordEnum.word_of_ofWord? h

end LspWire
