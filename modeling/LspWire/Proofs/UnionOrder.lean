import LspWire.Protocol.Language
import LspWire.Proofs.UnionChoice
import Mathlib.Data.Rat.Lemmas

/-! The order of alternatives.
Documents are compared by the values of their numbers, which is an equivalence, so whether several
candidates encode alike does not depend on which of them stands first. Permuted alternatives have
the candidates permuted; the answer is then the same, up to which of several values that encode
alike is taken and to the order in which an ambiguity names its alternatives. -/

namespace LspWire

namespace Binary64

theorem numerator_eq_zero_iff (x : Binary64) : x.numerator = 0 ↔ x.isZero = true := by
  simp [numerator, isZero]

theorem same_iff (x y : Binary64) : x.same y = true ↔ x.toRat = y.toRat := by
  have hx := x.denominator_pos
  have hy := y.denominator_pos
  have hxzero := x.numerator_eq_zero_iff
  have hyzero := y.numerator_eq_zero_iff
  rw [toRat, toRat, Rat.mkRat_eq_iff (by omega) (by omega), same]
  by_cases hzero : x.isZero = true ∧ y.isZero = true
  · simp [hzero, hxzero.mpr hzero.1, hyzero.mpr hzero.2]
  · have hpos : 0 < x.numerator * y.denominator ∨ 0 < y.numerator * x.denominator := by
      rw [← hxzero, ← hyzero] at hzero
      simp only [Nat.mul_pos_iff_of_pos_right hx, Nat.mul_pos_iff_of_pos_right hy]
      omega
    have hsame : (x.isZero && y.isZero) = false := by simpa using hzero
    rw [hsame, if_neg Bool.false_ne_true, Bool.and_eq_true, beq_iff_eq, beq_iff_eq]
    cases x.negative <;> cases y.negative <;>
      simp only [Bool.false_eq_true, if_false, if_true, reduceCtorEq, true_and, false_and,
        Int.neg_mul, Int.neg_inj, false_iff] <;> norm_cast <;> omega

end Binary64

theorem Number.same_congr {a b : Number} (h : a.same b = true) (c : Number) :
    a.same c = b.same c := by
  match a, b, c with
  | .integer _, .integer _, .integer _ => simp_all [same]
  | .float x, .float y, .float z =>
    have hxy : x.toRat = y.toRat := (x.same_iff y).mp h
    rw [Bool.eq_iff_iff]
    change x.same z = true ↔ y.same z = true
    rw [x.same_iff, y.same_iff, hxy]
  | .integer _, .integer _, .float _ | .float _, .float _, .integer _ => rfl
  | .integer _, .float _, _ | .float _, .integer _, _ => cases h

namespace Json

mutual

theorem same_congr : ∀ {a b : Json}, a.same b = true → ∀ c : Json, a.same c = b.same c
  | .null, .null, _, _ => rfl
  | .bool _, .bool _, h, c => by cases c <;> simp_all [same]
  | .number _, .number _, h, c => by
    cases c with
    | number n => exact Number.same_congr h n
    | _ => rfl
  | .string _, .string _, h, c => by cases c <;> simp_all [same]
  | .array as, .array bs, h, c => by
    cases c with
    | array cs => exact sameItems_congr h cs
    | _ => rfl
  | .object as, .object bs, h, c => by
    cases c with
    | object cs => exact sameMembers_congr h cs
    | _ => rfl

theorem sameItems_congr : ∀ {as bs : List Json}, sameItems as bs = true →
    ∀ cs : List Json, sameItems as cs = sameItems bs cs
  | [], [], _, _ => rfl
  | a :: as, b :: bs, h, cs => by
    rw [sameItems, Bool.and_eq_true] at h
    cases cs with
    | nil => rfl
    | cons c cs => rw [sameItems, sameItems, same_congr h.1 c, sameItems_congr h.2 cs]

theorem sameMembers_congr : ∀ {as bs : Members}, sameMembers as bs = true →
    ∀ cs : Members, sameMembers as cs = sameMembers bs cs
  | [], [], _, _ => rfl
  | (m, a) :: as, (n, b) :: bs, h, cs => by
    simp only [sameMembers, Bool.and_eq_true, beq_iff_eq] at h
    obtain ⟨⟨rfl, hvalue⟩, hrest⟩ := h
    cases cs with
    | nil => rfl
    | cons c cs => rw [sameMembers, sameMembers, same_congr hvalue c.2, sameMembers_congr hrest cs]

end

theorem same_symm {a b : Json} (h : a.same b = true) : b.same a = true := by
  rw [← same_congr h a]
  exact a.same_self

theorem same_trans {a b c : Json} (hab : a.same b = true) (hbc : b.same c = true) :
    a.same c = true := by
  rw [same_congr hab c]
  exact hbc

end Json

namespace Union

variable {U : Type}

def Alike (a b : Option Json) : Prop := ∃ x y, a = some x ∧ b = some y ∧ x.same y = true

theorem agree_iff {encodings : List (Option Json)} (hne : encodings ≠ []) :
    agree encodings = true ↔ ∀ a ∈ encodings, ∀ b ∈ encodings, Alike a b := by
  obtain ⟨head, rest, rfl⟩ := List.exists_cons_of_ne_nil hne
  cases head with
  | none =>
    refine iff_of_false Bool.false_ne_true fun h => ?_
    obtain ⟨x, -, hx, -⟩ := h none List.mem_cons_self none List.mem_cons_self
    cases hx
  | some first =>
    rw [agree, List.all_eq_true]
    constructor
    · intro h a ha b hb
      have hfirst : ∀ c ∈ some first :: rest, ∃ x, c = some x ∧ first.same x = true := by
        intro c hc
        have hsame := h c hc
        cases c with
        | none => cases hsame
        | some x => exact ⟨x, rfl, hsame⟩
      obtain ⟨x, hx, hxsame⟩ := hfirst a ha
      obtain ⟨y, hy, hysame⟩ := hfirst b hb
      exact ⟨x, y, hx, hy, Json.same_trans (Json.same_symm hxsame) hysame⟩
    · intro h b hb
      obtain ⟨x, y, hx, rfl, hsame⟩ := h _ List.mem_cons_self b hb
      cases hx
      exact hsame

theorem agree_perm {encodings others : List (Option Json)} (h : encodings.Perm others) :
    agree encodings = agree others := by
  by_cases hnil : encodings = []
  · rw [hnil] at h ⊢
    rw [h.nil_eq]
  · have hothers : others ≠ [] := fun heq => hnil (by rw [heq] at h; exact h.eq_nil)
    rw [Bool.eq_iff_iff, agree_iff hnil, agree_iff hothers]
    simp only [h.mem_iff]

variable {union : String} {encode : U → Option Json} {path : Path}

/-- The answers differ at most in which of several values that encode alike is taken, or in the
order in which the alternatives of an ambiguity are named. -/
def SameChoice (union : String) (encode : U → Option Json) (path : Path) (found others : Matches U)
    (answer answer' : Except DecodeError U) : Prop :=
  (∃ u v, answer = .ok u ∧ answer' = .ok v ∧
      (Alike (encode u) (encode v) ∨
        u = v ∧ ∃ name, found = [(name, u)] ∧ others = [(name, u)])) ∨
    (answer = .error (.unionNoMatch path union) ∧ answer' = .error (.unionNoMatch path union)) ∨
    ∃ names names', answer = .error (.unionAmbiguous path union names) ∧
      answer' = .error (.unionAmbiguous path union names') ∧ names.Perm names'

theorem choose_of_several (union : String) (encode : U → Option Json) (path : Path)
    {found : Matches U} (h : 2 ≤ found.length) :
    ∃ first ∈ found, choose union encode path found =
      if agree (found.map fun entry => encode entry.2) then .ok first.2
      else .error (.unionAmbiguous path union (found.map (·.1))) := by
  match found with
  | first :: second :: rest =>
    refine ⟨first, List.mem_cons_self, ?_⟩
    rw [choose]
    simp

theorem sameChoice_of_perm {found others : Matches U} (h : found.Perm others) :
    SameChoice union encode path found others (choose union encode path found)
      (choose union encode path others) := by
  by_cases hseveral : 2 ≤ found.length
  · have hseveral' : 2 ≤ others.length := h.length_eq ▸ hseveral
    obtain ⟨first, hfirst, hchoose⟩ := choose_of_several union encode path hseveral
    obtain ⟨first', hfirst', hchoose'⟩ := choose_of_several union encode path hseveral'
    rw [hchoose, hchoose', ← agree_perm (h.map fun entry => encode entry.2)]
    split
    · next hagree =>
      have hpairs := (agree_iff (by simpa using List.ne_nil_of_mem hfirst)).mp hagree
      have halike : Alike (encode first.2) (encode first'.2) :=
        hpairs _ (List.mem_map.mpr ⟨first, hfirst, rfl⟩) _
          (List.mem_map.mpr ⟨first', h.mem_iff.mpr hfirst', rfl⟩)
      exact .inl ⟨_, _, rfl, rfl, .inl halike⟩
    · exact .inr (.inr ⟨_, _, rfl, rfl, h.map _⟩)
  · match found with
    | [] =>
      rw [← h.nil_eq]
      exact .inr (.inl ⟨rfl, rfl⟩)
    | [(name, u)] =>
      obtain rfl := List.singleton_perm.mp h
      exact .inl ⟨u, u, rfl, rfl, .inr ⟨rfl, name, rfl, rfl⟩⟩
    | _ :: _ :: _ => simp at hseveral

theorem candidates_perm {alternatives others : List (Alternative U)}
    (h : alternatives.Perm others) (value : Json) (cx : Context) :
    (candidates alternatives value cx).Perm (candidates others value cx) := by
  have hstrict : (reads alternatives value cx.strict).Perm (reads others value cx.strict) :=
    h.filterMap _
  by_cases hnone : reads alternatives value cx.strict = []
  · have hnone' : reads others value cx.strict = [] := by
      rw [hnone] at hstrict
      exact hstrict.nil_eq.symm
    rw [candidates_of_no_strict_reads hnone, candidates_of_no_strict_reads hnone']
    exact h.filterMap _
  · have hsome : reads others value cx.strict ≠ [] := fun hnil => by
      rw [hnil] at hstrict
      exact hnone hstrict.eq_nil
    rw [← filterMap_strictMatch?] at hnone hsome
    rw [candidates_of_strictMatch hnone, candidates_of_strictMatch hsome]
    exact h.filterMap _

/-- Of the alternatives that read the value on the terms given, the first reads `u`. -/
def FirstReads (alternatives : List (Alternative U)) (value : Json) (cx : Context) (u : U) : Prop :=
  ∃ front a back, alternatives = front ++ a :: back ∧ a.decode value cx = .ok u ∧
    ∀ b ∈ front, ∀ v, b.decode value cx ≠ .ok v

theorem firstReads_of_reads {alternatives : List (Alternative U)} {value : Json} {cx : Context}
    {name : String} {u : U} {rest : Matches U}
    (h : reads alternatives value cx = (name, u) :: rest) :
    FirstReads alternatives value cx u := by
  obtain ⟨front, a, back, hsplit, hfront, ha, -⟩ := List.filterMap_eq_cons_iff.mp h
  refine ⟨front, a, back, hsplit, ?_, fun b hb v hv => ?_⟩
  · obtain ⟨v, hv, heq⟩ := Option.map_eq_some_iff.mp ha
    cases heq
    exact toOption_eq_some_iff.mp hv
  · have hnone := Option.map_eq_none_iff.mp (hfront b hb)
    rw [toOption_eq_some_iff.mpr hv] at hnone
    cases hnone

theorem reads_eq_nil_iff {alternatives : List (Alternative U)} {value : Json} {cx : Context} :
    reads alternatives value cx = [] ↔ ∀ a ∈ alternatives, ∀ v, a.decode value cx ≠ .ok v := by
  rw [List.eq_nil_iff_forall_not_mem]
  constructor
  · intro h a ha v hv
    exact h (a.name, v) (mem_reads_iff.mpr ⟨a, ha, rfl, hv⟩)
  · intro h found hfound
    obtain ⟨a, ha, -, hv⟩ := mem_reads_iff.mp hfound
    exact h a ha _ hv

theorem winner_of_decode {alternatives : List (Alternative U)} {value : Json} {cx : Context} {u : U}
    (h : decode union encode alternatives value cx = .ok u) :
    FirstReads alternatives value cx.strict u ∨
      cx.options.rejectUnknownFields = false ∧
        (∀ a ∈ alternatives, ∀ v, a.decode value cx.strict ≠ .ok v) ∧
          FirstReads alternatives value cx u := by
  by_cases hnone : reads alternatives value cx.strict = []
  · rw [decode_of_no_strict_reads hnone] at h
    obtain ⟨name, rest, hreads, -⟩ := choose_eq_ok_iff.mp h
    refine .inr ⟨?_, reads_eq_nil_iff.mp hnone, firstReads_of_reads hreads⟩
    rw [← Bool.not_eq_true]
    intro hreject
    rw [Context.strict_of_reject hreject, hreads] at hnone
    cases hnone
  · rw [decode_of_strict_reads hnone] at h
    obtain ⟨name, rest, hreads, -⟩ := choose_eq_ok_iff.mp h
    exact .inl (firstReads_of_reads hreads)

/-- A union answers the same in whatever order its alternatives are tried, be they read and encoded
as they may. It takes the same value, or one that encodes alike; it finds no match; or it finds the
same alternatives to match. The value taken is the one of the first alternative, in the order given,
that matches strictly, and of the first that matches on the caller's terms only where those are
permissive and there is no strict match. -/
theorem decode_independent_of_order (union : String) (encode : U → Option Json)
    {alternatives others : List (Alternative U)} (h : alternatives.Perm others) (value : Json)
    (cx : Context) :
    SameChoice union encode cx.path (candidates alternatives value cx) (candidates others value cx)
        (decode union encode alternatives value cx) (decode union encode others value cx) ∧
      ∀ u, decode union encode alternatives value cx = .ok u →
        FirstReads alternatives value cx.strict u ∨
          cx.options.rejectUnknownFields = false ∧
            (∀ a ∈ alternatives, ∀ v, a.decode value cx.strict ≠ .ok v) ∧
              FirstReads alternatives value cx u :=
  ⟨sameChoice_of_perm (candidates_perm h value cx), fun _ => winner_of_decode⟩

theorem decode_independent_of_order_links :
    ∃ union variants, Protocol.definitionResult = .union union variants ∧
      variants.alternatives.Perm variants.alternatives.reverse ∧
      ∃ u v, decode union (fun x => some (variants.encode x)) variants.alternatives (.array [])
          (.root .strict) = .ok u ∧
        decode union (fun x => some (variants.encode x)) variants.alternatives.reverse (.array [])
          (.root .strict) = .ok v ∧
        u ≠ v ∧ Alike (some (variants.encode u)) (some (variants.encode v)) ∧
        FirstReads variants.alternatives (.array []) (.root .strict) u := by
  have hperm := (List.reverse_perm (Schema.variants
    [Schema.shape "Definition" "Definition" Protocol.definition,
      Schema.shape "DefinitionLink[]" "Links" Protocol.locationLink.list]).alternatives).symm
  obtain ⟨hsame, hfirst⟩ := decode_independent_of_order "DefinitionResult"
    (fun x => some (Variants.encode _ x)) hperm (.array []) (.root .strict)
  refine ⟨_, _, rfl, hperm, .inl (.inr (.inl [])), .inr (.inl []), rfl, rfl, Sum.inl_ne_inr, ?_⟩
  rcases hsame with ⟨u, v, hu, hv, hlike⟩ | ⟨hnone, -⟩ | ⟨_, _, hnone, -⟩
  · cases hu
    cases hv
    refine ⟨hlike.resolve_right fun heq => Sum.inl_ne_inr heq.1, ?_⟩
    exact (hfirst _ rfl).resolve_right fun hlenient => by cases hlenient.1
  · cases hnone
  · cases hnone

end Union

end LspWire
