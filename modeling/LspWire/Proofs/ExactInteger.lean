import LspWire.Envelope.ErrorCode
import LspWire.Proofs.ErrorTruth
import Mathlib.Data.Rat.Lemmas

/-! Numbers read as integers.
A number is accepted exactly when it is stored whole and lies in the range, and then nothing of it
is lost. A number whose value is whole and beyond the range is out of range, however it is stored,
and all others are mismatches. The same verdicts come from the stored form alone: a whole number is
compared as a word of 64 bits, and a binary one with the bounds made binary, which are held exactly
because they stay below `2 ^ 53`. -/

namespace LspWire

namespace Binary64

theorem mod_eq_zero_of_toRat {x : Binary64} {i : Int} (h : x.toRat = i) :
    x.numerator % x.denominator = 0 := by
  have hpos := x.denominator_pos
  rw [toRat, ← Rat.mkRat_one i, Rat.mkRat_eq_iff (by omega) (by omega)] at h
  have hdvd : (x.denominator : Int) ∣ x.numerator := by
    cases hsign : x.negative with
    | false => exact ⟨i, by simpa [hsign, Int.mul_comm] using h⟩
    | true => exact ⟨-i, by simp only [hsign, if_true] at h; rw [Int.mul_neg, Int.mul_comm]; omega⟩
  exact Nat.mod_eq_zero_of_dvd (Int.natCast_dvd_natCast.mp hdvd)

theorem toInt?_eq_some_iff (x : Binary64) (i : Int) : x.toInt? = some i ↔ x.toRat = i := by
  refine ⟨toRat_of_toInt?, fun h => ?_⟩
  obtain ⟨j, hj⟩ : ∃ j, x.toInt? = some j := ⟨_, if_pos (mod_eq_zero_of_toRat h)⟩
  have hij : (i : Rat) = j := h.symm.trans (toRat_of_toInt? hj)
  rw [hj, Rat.intCast_inj.mp hij]

/-- The binary number nearest to a whole one. -/
def ofInt? (i : Int) : Option Binary64 := nearest (i < 0) i.natAbs 1

theorem roundDiv_one (num : Nat) : roundDiv num 1 = num := by simp [roundDiv, Nat.mod_one]

theorem toRat_shifted (negative : Bool) (n k : Nat) :
    (⟨negative, n * 2 ^ k, -k⟩ : Binary64).toRat = (if negative then -n else n : Int) := by
  apply toRat_of_toInt?
  have hnum : (⟨negative, n * 2 ^ k, -k⟩ : Binary64).numerator = n * 2 ^ k := by simp [numerator]
  have hden : (⟨negative, n * 2 ^ k, -k⟩ : Binary64).denominator = 2 ^ k := by simp [denominator]
  rw [toInt?, hnum, hden, Nat.mul_mod_left, if_pos rfl, Nat.mul_div_cancel _ (Nat.two_pow_pos k)]

theorem lastPlace_of_lt {n : Nat} (hn : n ≠ 0) (h : n < 2 ^ 53) :
    lastPlace n 1 = -((52 - n.log2 : Nat) : Int) := by
  have hlog : n.log2 < 53 := (Nat.log2_lt hn).mpr h
  have hplace : (n.log2 : Int) - (Nat.log2 1 : Nat) - 53 = -((53 - n.log2 : Nat) : Int) := by
    rw [show Nat.log2 1 = 0 from rfl]
    omega
  have hfull : leastFull * 2 ≤ n * 2 ^ (53 - n.log2) := by
    calc leastFull * 2 = 2 ^ n.log2 * 2 ^ (53 - n.log2) := by
          rw [← Nat.pow_add, Nat.add_sub_cancel' (by omega)]; rfl
      _ ≤ n * 2 ^ (53 - n.log2) := Nat.mul_le_mul_right _ (Nat.log2_self_le hn)
  simp only [lastPlace, hplace, Int.neg_neg, Int.toNat_natCast, Int.toNat_neg_natCast, Nat.pow_eq,
    Nat.pow_zero, Nat.mul_one, Nat.div_one]
  rw [if_neg (by omega), minExponent]
  omega

theorem exists_nearest_of_lt (negative : Bool) {n : Nat} (h : n < 2 ^ 53) :
    ∃ x, nearest negative n 1 = some x ∧ x.toRat = (if negative then -n else n : Int) := by
  by_cases hn : n = 0
  · refine ⟨zero negative, if_pos hn, ?_⟩
    simp [hn, zero, toRat, numerator]
  · have hlog : n.log2 < 53 := (Nat.log2_lt hn).mpr h
    have hplace := lastPlace_of_lt hn h
    have hunits : inUnits (lastPlace n 1) n 1 = n * 2 ^ (52 - n.log2) := by
      rw [hplace, inUnits, Int.neg_neg, Int.toNat_natCast, Int.toNat_neg_natCast]
      exact roundDiv_one _
    have hsmall : n * 2 ^ (52 - n.log2) < leastFull * 2 := by
      calc n * 2 ^ (52 - n.log2) < 2 ^ (n.log2 + 1) * 2 ^ (52 - n.log2) :=
            Nat.mul_lt_mul_of_pos_right Nat.lt_log2_self (Nat.two_pow_pos _)
        _ = leastFull * 2 := by
          rw [← Nat.pow_add, show n.log2 + 1 + (52 - n.log2) = 53 by omega]; rfl
    refine ⟨⟨negative, n * 2 ^ (52 - n.log2), lastPlace n 1⟩, ?_, ?_⟩
    · simp only [nearest, if_neg hn, hunits, if_neg (Nat.ne_of_lt hsmall)]
      exact if_pos (by simp only [hplace, maxExponent]; omega)
    · rw [hplace]
      exact toRat_shifted negative n _

theorem exists_ofInt? {i : Int} (h : i.natAbs < 2 ^ 53) :
    ∃ x, ofInt? i = some x ∧ x.toRat = i := by
  obtain ⟨x, hx, hvalue⟩ := exists_nearest_of_lt (i < 0) h
  refine ⟨x, hx, hvalue.trans (congrArg _ ?_)⟩
  simp only [decide_eq_true_eq]
  split <;> omega

/-- Order by value. -/
def less (x y : Binary64) : Bool := decide (x.toRat < y.toRat)

end Binary64

namespace IntegerRange

variable (range : IntegerRange)

def excludes (x : Binary64) : Bool :=
  x.toInt?.isSome &&
    ((Binary64.ofInt? range.least).any (x.less ·) ||
      (Binary64.ofInt? range.greatest).any (·.less x))

/-- Reads a number by the form in which it is stored. One that is whole but fits no signed word of
64 bits is beyond every range. -/
def decodeStored (n : Number) (cx : Context) : Except DecodeError Int :=
  match n with
  | .integer i =>
    if Int64.minValue.toInt ≤ i ∧ i ≤ Int64.maxValue.toInt ∧ range.contains i = true then .ok i
    else .error (.fieldOutOfRange cx.path range.name n.text)
  | .float x =>
    if range.excludes x then .error (.fieldOutOfRange cx.path range.name n.text)
    else .error (.typeMismatch cx.path range.name "non-integral number")

/-- A whole value beyond the range. -/
def Misses (n : Number) : Prop :=
  ∃ i : Int, n.toRat = i ∧ (i < range.least ∨ range.greatest < i)

def Holds (n : Number) : Prop :=
  ∃ i, n = .integer i ∧ range.least ≤ i ∧ i ≤ range.greatest

theorem misses_integer_iff (i : Int) : range.Misses (.integer i) ↔ range.contains i = false := by
  rw [← Bool.not_eq_true, contains_iff]
  simp only [Misses, Number.toRat, Rat.intCast_inj, exists_eq_left']
  omega

theorem misses_float_iff (x : Binary64) :
    range.Misses (.float x) ↔ ∃ i, x.toInt? = some i ∧ range.contains i = false := by
  refine exists_congr fun i => and_congr (x.toInt?_eq_some_iff i).symm ?_
  rw [← Bool.not_eq_true, contains_iff]
  omega

theorem not_misses_of_holds {n : Number} (h : range.Holds n) : ¬range.Misses n := by
  obtain ⟨i, rfl, hleast, hgreatest⟩ := h
  rintro ⟨j, hj, hout⟩
  cases Rat.intCast_inj.mp hj
  omega

theorem decode_cases (n : Number) (cx : Context) :
    (∃ i, n = .integer i ∧ range.least ≤ i ∧ i ≤ range.greatest ∧
        range.decode (.number n) cx = .ok i) ∨
      (range.Misses n ∧
        range.decode (.number n) cx = .error (.fieldOutOfRange cx.path range.name n.text)) ∨
      (¬range.Holds n ∧ ¬range.Misses n ∧ range.decode (.number n) cx =
        .error (.typeMismatch cx.path range.name "non-integral number")) := by
  cases n with
  | integer i =>
    cases hcontains : range.contains i with
    | true =>
      have hbounds := (contains_iff range i).mp hcontains
      exact .inl ⟨i, rfl, hbounds.1, hbounds.2, if_pos hcontains⟩
    | false =>
      refine .inr (.inl ⟨(range.misses_integer_iff i).mpr hcontains, if_neg ?_⟩)
      rw [hcontains]
      exact Bool.false_ne_true
  | float x =>
    have hholds : ¬range.Holds (.float x) := fun ⟨_, h, _⟩ => by cases h
    have hmisses := range.misses_float_iff x
    dsimp only [decode]
    cases hwhole : x.toInt? with
    | none => exact .inr (.inr ⟨hholds, by simp [hmisses, hwhole], rfl⟩)
    | some i =>
      cases hcontains : range.contains i with
      | true => exact .inr (.inr ⟨hholds, by simp [hmisses, hwhole, hcontains], if_pos hcontains⟩)
      | false => exact .inr (.inl ⟨hmisses.mpr ⟨i, hwhole, hcontains⟩, by simp [hcontains]⟩)

theorem excludes_iff {range : IntegerRange} (hleast : range.least.natAbs < 2 ^ 53)
    (hgreatest : range.greatest.natAbs < 2 ^ 53) (x : Binary64) :
    range.excludes x = true ↔ range.Misses (.float x) := by
  obtain ⟨least, hfirst, hleast⟩ := Binary64.exists_ofInt? hleast
  obtain ⟨greatest, hlast, hgreatest⟩ := Binary64.exists_ofInt? hgreatest
  simp only [excludes, hfirst, hlast, Option.any_some, Binary64.less, hleast, hgreatest,
    Bool.and_eq_true, Bool.or_eq_true, decide_eq_true_eq, Option.isSome_iff_exists,
    Binary64.toInt?_eq_some_iff]
  constructor
  · rintro ⟨⟨i, hi⟩, hout⟩
    rw [hi, Rat.intCast_lt_intCast, Rat.intCast_lt_intCast] at hout
    exact ⟨i, hi, hout⟩
  · rintro ⟨i, hi, hout⟩
    refine ⟨⟨i, hi⟩, ?_⟩
    rwa [show x.toRat = i from hi, Rat.intCast_lt_intCast, Rat.intCast_lt_intCast]

theorem decode_eq_decodeStored {range : IntegerRange} (hleast : range.least.natAbs < 2 ^ 53)
    (hgreatest : range.greatest.natAbs < 2 ^ 53) (n : Number) (cx : Context) :
    range.decode (.number n) cx = range.decodeStored n cx := by
  rcases range.decode_cases n cx with ⟨i, rfl, hlow, hhigh, hdecode⟩ | ⟨hmisses, hdecode⟩ |
    ⟨hholds, hmisses, hdecode⟩
  · rw [hdecode]
    refine (if_pos ⟨?_, ?_, (contains_iff range i).mpr ⟨hlow, hhigh⟩⟩).symm
    · rw [Int64.toInt_minValue]; omega
    · rw [Int64.toInt_maxValue]; omega
  · rw [hdecode]
    cases n with
    | integer i =>
      rw [misses_integer_iff] at hmisses
      exact (if_neg (by simp [hmisses])).symm
    | float x => exact (if_pos ((excludes_iff hleast hgreatest x).mpr hmisses)).symm
  · rw [hdecode]
    cases n with
    | integer i =>
      have hcontains : ¬range.contains i = false := fun h =>
        hmisses ((range.misses_integer_iff i).mpr h)
      rw [Bool.not_eq_false, contains_iff] at hcontains
      exact absurd ⟨i, rfl, hcontains⟩ hholds
    | float x => exact (if_neg fun h => hmisses ((excludes_iff hleast hgreatest x).mp h)).symm

/-- A decoder reads a number exactly when it is stored whole in the range, as that number. It calls
a number out of range exactly when its value is whole and not in the range, and a mismatch exactly
when neither holds. -/
structure ReadsExactly {α : Type} (d : Decoder α) (toInt : α → Int) (n : Number) (cx : Context) :
    Prop where
  accepted_iff : (∃ a, d.decode (.number n) cx = .ok a) ↔ range.Holds n
  eq_of_accepted : ∀ a, d.decode (.number n) cx = .ok a → n = .integer (toInt a)
  outOfRange_iff : d.decode (.number n) cx =
    .error (.fieldOutOfRange cx.path range.name n.text) ↔ range.Misses n
  mismatch_iff : d.decode (.number n) cx =
    .error (.typeMismatch cx.path range.name "non-integral number") ↔
      ¬range.Holds n ∧ ¬range.Misses n

theorem readsExactly {range : IntegerRange} {α : Type} {d : Decoder α} {narrow : Int → α}
    {toInt : α → Int} (hd : ∀ value cx, d.decode value cx = (range.decode value cx).map narrow)
    (hnarrow : ∀ i, range.least ≤ i → i ≤ range.greatest → toInt (narrow i) = i) (n : Number)
    (cx : Context) : range.ReadsExactly d toInt n cx := by
  have hd := hd (.number n) cx
  rcases range.decode_cases n cx with ⟨i, rfl, hlow, hhigh, hdecode⟩ | ⟨hmisses, hdecode⟩ |
    ⟨hholds, hmisses, hdecode⟩
  · have hholds : range.Holds (.integer i) := ⟨i, rfl, hlow, hhigh⟩
    replace hd : d.decode (.number (.integer i)) cx = .ok (narrow i) := by rw [hd, hdecode]; rfl
    refine ⟨by simp [hd, hholds], fun a ha => ?_, by simp [hd, range.not_misses_of_holds hholds],
      by simp [hd, hholds]⟩
    rw [hd] at ha
    cases ha
    rw [hnarrow i hlow hhigh]
  · have hholds : ¬range.Holds n := fun h => range.not_misses_of_holds h hmisses
    replace hd : d.decode (.number n) cx =
        .error (.fieldOutOfRange cx.path range.name n.text) := by rw [hd, hdecode]; rfl
    exact ⟨by simp [hd, hholds], by simp [hd], by simp [hd, hmisses], by simp [hd, hmisses]⟩
  · replace hd : d.decode (.number n) cx =
        .error (.typeMismatch cx.path range.name "non-integral number") := by rw [hd, hdecode]; rfl
    exact ⟨by simp [hd, hholds], by simp [hd], by simp [hd, hmisses],
      by simp [hd, hholds, hmisses]⟩

theorem integer_readsExactly (n : Number) (cx : Context) :
    integer.ReadsExactly .integer Int32.toInt n cx := by
  refine readsExactly (fun _ _ => rfl) (fun i hlow hhigh => ?_) n cx
  exact Int32.toInt_ofInt_of_le hlow (Int.lt_add_one_of_le hhigh)

theorem uinteger_readsExactly (n : Number) (cx : Context) :
    uinteger.ReadsExactly .uinteger (fun k => (k.toNat : Int)) n cx := by
  refine readsExactly (fun _ _ => rfl) (fun i hlow hhigh => ?_) n cx
  simp only [uinteger] at hlow hhigh
  rw [UInt32.toNat_ofNat_of_lt' (by simp [UInt32.size]; omega), Int.toNat_of_nonneg hlow]

end IntegerRange

theorem Decoder.eq_value_of_integerEnum {e : IntegerEnum} {n : Number} {cx : Context}
    {i : Fin e.members.length} (h : (integerEnum e).decode (.number n) cx = .ok i) :
    n = .integer (e.value i) := by
  obtain ⟨k, hk, hi⟩ := (integerEnum_decode_eq_ok_iff e _ cx i).mp h
  rw [IntegerEnum.value_of_ofValue? hi]
  exact (IntegerRange.uinteger_readsExactly n cx).eq_of_accepted k hk

theorem Decoder.numberOrString_number_iff (n : Number) (cx : Context) (x : NumberOrString) :
    numberOrString.decode (.number n) cx = .ok x ↔
      ∃ k : Int32, n = .integer k.toInt ∧ x = .number k := by
  rw [numberOrString_decode_eq_ok_iff]
  cases x <;> simp [NumberOrString.write]

namespace ResponseError

theorem required_code_eq_ok_iff {held : Option Json} {cx : Context} {k : Int32} :
    FieldReader.required Decoder.integer "code" held cx = .ok k ↔
      held = some (.number (.integer k.toInt)) := by
  refine FieldReader.required_eq_ok_of_present.trans ⟨?_, fun h => ⟨_, h, ?_⟩⟩
  · rintro ⟨value, rfl, hread⟩
    rw [(Decoder.integer_decode_eq_ok_iff _ _ _).mp hread]
  · exact (Decoder.integer_decode_eq_ok_iff _ _ _).mpr rfl

theorem decode_eq_ok_iff {members : Members} {cx : Context} {e : ResponseError} :
    responseError.decoder.decode (.object members) cx = .ok e ↔
      (members.get? "code" = some (.number (.integer (code e).toInt)) ∧
        members.get? "message" = some (.string (message e)) ∧ members.get? "data" = data e) ∧
      (cx.options.rejectUnknownFields = true →
        ∀ name ∈ members.names, name ∈ ["code", "message", "data"]) := by
  obtain ⟨code, message, data, ⟨⟩⟩ := e
  refine (Fields.gives_read _).decode_eq_ok_iff.trans ?_
  constructor
  · rintro ⟨_, ⟨⟩, hcollect, hnames⟩
    obtain ⟨hcode, hcollect⟩ := Fields.collect_cons_eq_ok_iff.mp hcollect
    obtain ⟨hmessage, hcollect⟩ := Fields.collect_cons_eq_ok_iff.mp hcollect
    obtain ⟨hdata, -⟩ := Fields.collect_cons_eq_ok_iff.mp hcollect
    have hheld : members.get? "data" = data :=
      Except.ok.inj ((FieldReader.optional_any "data" _ cx).symm.trans hdata)
    exact ⟨⟨required_code_eq_ok_iff.mp hcode, FieldReader.required_string_eq_ok_iff.mp hmessage,
      hheld⟩, hnames⟩
  · rintro ⟨⟨hcode, hmessage, hdata⟩, hnames⟩
    refine ⟨members, rfl, ?_, hnames⟩
    refine Fields.collect_cons_eq_ok_iff.mpr ⟨required_code_eq_ok_iff.mpr hcode, ?_⟩
    refine Fields.collect_cons_eq_ok_iff.mpr
      ⟨FieldReader.required_string_eq_ok_iff.mpr hmessage, ?_⟩
    refine Fields.collect_cons_eq_ok_iff.mpr ⟨?_, rfl⟩
    exact (FieldReader.optional_any "data" _ cx).trans (congrArg _ hdata)

theorem decode_insert_code {members : Members} {cx : Context} {e : ResponseError}
    (h : responseError.decoder.decode (.object members) cx = .ok e) (n : Number)
    (e' : ResponseError) :
    responseError.decoder.decode (.object (members.insert "code" (.number n))) cx = .ok e' ↔
      ∃ k : Int32, n = .integer k.toInt ∧ e' = make k (message e) (data e) := by
  obtain ⟨⟨hcode, hmessage, hdata⟩, hnames⟩ := decode_eq_ok_iff.mp h
  have hmem : ∀ name, name ∈ (members.insert "code" (.number n)).names ↔ name ∈ members.names := by
    intro name
    rw [Members.mem_names_iff, Members.mem_names_iff, Members.get?_insert]
    split
    · next heq => rw [← heq, hcode]; rfl
    · rfl
  rw [decode_eq_ok_iff, Members.get?_insert, Members.get?_insert, Members.get?_insert, if_pos rfl,
    if_neg (by decide), if_neg (by decide), hmessage, hdata]
  constructor
  · rintro ⟨⟨hn, hs, hd⟩, -⟩
    obtain ⟨code', message', data', ⟨⟩⟩ := e'
    cases hn
    cases hs
    cases hd
    exact ⟨code', rfl, rfl⟩
  · rintro ⟨k, rfl, rfl⟩
    exact ⟨⟨rfl, rfl, rfl⟩, fun hreject name hname => hnames hreject name ((hmem name).mp hname)⟩

end ResponseError

/-- Numbers are read as integers exactly. At any place a type of integers accepts those stored whole
in its range, and the value is the number itself; it calls out of range those whose value is whole
and beyond it, however they are written, and refuses all others as mismatches. This is what
comparing the stored forms with the bounds gives. So a closed enumeration accepts its listed numbers
alone, and an identifier or the code of an error, of all numbers, those of 32 bits. -/
theorem integers_read_exactly (n : Number) (cx : Context) :
    IntegerRange.integer.ReadsExactly .integer Int32.toInt n cx ∧
      IntegerRange.uinteger.ReadsExactly .uinteger (fun k => (k.toNat : Int)) n cx ∧
      Decoder.integer.decode (.number n) cx =
        (IntegerRange.integer.decodeStored n cx).map Int32.ofInt ∧
      Decoder.uinteger.decode (.number n) cx =
        (IntegerRange.uinteger.decodeStored n cx).map (fun i => UInt32.ofNat i.toNat) ∧
      (∀ (e : IntegerEnum) (i : Fin e.members.length),
        (Decoder.integerEnum e).decode (.number n) cx = .ok i → n = .integer (e.value i)) ∧
      (∀ x, Decoder.numberOrString.decode (.number n) cx = .ok x ↔
        ∃ k : Int32, n = .integer k.toInt ∧ x = .number k) ∧
      ∀ (members : Members) (e : ResponseError),
        responseError.decoder.decode (.object members) cx = .ok e → ∀ e',
          responseError.decoder.decode (.object (members.insert "code" (.number n))) cx = .ok e' ↔
            ∃ k : Int32, n = .integer k.toInt ∧
              e' = ResponseError.make k (ResponseError.message e) (ResponseError.data e) := by
  refine ⟨IntegerRange.integer_readsExactly n cx, IntegerRange.uinteger_readsExactly n cx, ?_, ?_,
    fun _ _ => Decoder.eq_value_of_integerEnum, Decoder.numberOrString_number_iff n cx,
    fun _ _ h => ResponseError.decode_insert_code h n⟩
  · exact congrArg (Except.map _) (IntegerRange.decode_eq_decodeStored (by decide) (by decide) n cx)
  · exact congrArg (Except.map _) (IntegerRange.decode_eq_decodeStored (by decide) (by decide) n cx)

theorem integers_read_exactly_milliards :
    let n : Number := .float ⟨false, 6291456000000000, -21⟩
    let members : Members :=
      [("code", .number (.integer (-32601))), ("message", .string "not here")]
    Decoder.integer.decode (.number n) (.root .strict) =
        .error (.fieldOutOfRange .payload "integer" "3000000000.0") ∧
      responseError.decoder.decode (.object members) (.root .strict) =
        .ok (ResponseError.make (-32601) "not here" none) ∧
      ∀ e, responseError.decoder.decode (.object (members.insert "code" (.number n)))
        (.root .strict) ≠ .ok e := by
  intro n members
  have hmembers : responseError.decoder.decode (.object members) (.root .strict) =
      .ok (ResponseError.make (-32601) "not here" none) := rfl
  obtain ⟨hinteger, -, -, -, -, -, hcode⟩ := integers_read_exactly n (.root .strict)
  have hmisses : IntegerRange.integer.Misses n :=
    (IntegerRange.misses_float_iff _ _).mpr ⟨3000000000, by decide, by decide⟩
  refine ⟨(hinteger.outOfRange_iff.mpr hmisses).trans ?_, hmembers, fun e he => ?_⟩
  · rfl
  · obtain ⟨k, hk, -⟩ := (hcode members _ hmembers e).mp he
    simp [n] at hk

end LspWire
