import LspWire.Proofs.ExceptStep
import LspWire.Schema.Decode
import Mathlib.Data.List.Basic

/-! What a union chooses.
The value chosen is the first of the candidates, all of which encode alike; the candidates are the
strict matches, or without one the matches on the caller's terms. -/

namespace LspWire

namespace Json

theorem Number.same_self (n : Number) : n.same n = true := by
  cases n with
  | integer i => exact beq_self_eq_true i
  | float x => exact x.same_self

mutual

theorem same_self : ∀ value : Json, value.same value = true
  | .null => rfl
  | .bool b => by rw [same, beq_self_eq_true]
  | .number n => Number.same_self n
  | .string s => by rw [same, beq_self_eq_true]
  | .array items => sameItems_self items
  | .object members => sameMembers_self members

theorem sameItems_self : ∀ items : List Json, sameItems items items = true
  | [] => rfl
  | item :: rest => by rw [sameItems, same_self item, sameItems_self rest]; rfl

theorem sameMembers_self : ∀ members : List (String × Json), sameMembers members members = true
  | [] => rfl
  | (name, value) :: rest => by
    rw [sameMembers, beq_self_eq_true, same_self value, sameMembers_self rest]
    rfl

end

end Json

theorem Context.strict_of_reject {cx : Context} (h : cx.options.rejectUnknownFields = true) :
    cx.strict = cx := by
  obtain ⟨path, ⟨reject⟩⟩ := cx
  cases h
  rfl

namespace Union

variable {U V : Type}

theorem choose_eq_ok_iff {union : String} {encode : U → Option Json} {path : Path}
    {found : Matches U} {u : U} :
    choose union encode path found = .ok u ↔
      ∃ name rest, found = (name, u) :: rest ∧
        (rest ≠ [] → agree (found.map fun entry => encode entry.2) = true) := by
  match found with
  | [] => exact ⟨fun h => (by cases h), fun ⟨_, _, h, _⟩ => (by cases h)⟩
  | [(name, v)] =>
    constructor
    · intro h
      cases h
      exact ⟨name, [], rfl, fun hne => absurd rfl hne⟩
    · rintro ⟨_, _, h, _⟩
      cases h
      rfl
  | (name, v) :: second :: rest =>
    rw [choose]
    · split
      · next hagree =>
        constructor
        · intro h
          cases h
          exact ⟨name, second :: rest, rfl, fun _ => hagree⟩
        · rintro ⟨_, _, h, _⟩
          cases h
          rfl
      · next hagree =>
        refine ⟨fun h => (by cases h), ?_⟩
        rintro ⟨_, rest', h, hagrees⟩
        cases h
        exact absurd (hagrees (List.cons_ne_nil _ _)) hagree
    · exact List.cons_ne_nil _ _

theorem strictMatch?_eq_some_iff {value : Json} {cx : Context} {a : Alternative U}
    {found : String × U} :
    strictMatch? value cx a = some found ↔
      found.1 = a.name ∧ a.decode value cx.strict = .ok found.2 := by
  obtain ⟨name, u⟩ := found
  unfold strictMatch?
  cases a.decode value cx.strict with
  | error e => exact ⟨fun h => (by cases h), fun ⟨_, h⟩ => (by cases h)⟩
  | ok v =>
    constructor
    · intro h
      cases h
      exact ⟨rfl, rfl⟩
    · rintro ⟨hname, h⟩
      cases h
      exact congrArg (fun name => some (name, u)) hname.symm

theorem decode_of_lenientMatch? {value : Json} {cx : Context} {a : Alternative U}
    {found : String × U} (h : lenientMatch? value cx a = some found) :
    a.decode value cx = .ok found.2 := by
  unfold lenientMatch? at h
  split at h
  · cases h
  · split at h
    · next u hu => cases h; exact hu
    · cases h

theorem candidates_of_strictMatch {alternatives : List (Alternative U)} {value : Json}
    {cx : Context} (h : alternatives.filterMap (strictMatch? value cx) ≠ []) :
    candidates alternatives value cx = alternatives.filterMap (strictMatch? value cx) := by
  unfold candidates
  split
  · next hnil => exact absurd hnil h
  · rfl

theorem mem_candidates {alternatives : List (Alternative U)} {value : Json} {cx : Context}
    {found : String × U} (h : found ∈ candidates alternatives value cx) :
    ∃ a ∈ alternatives,
      a.decode value cx.strict = .ok found.2 ∨ a.decode value cx = .ok found.2 := by
  unfold candidates at h
  split at h
  · obtain ⟨a, ha, hfound⟩ := List.mem_filterMap.mp h
    exact ⟨a, ha, .inr (decode_of_lenientMatch? hfound)⟩
  · obtain ⟨a, ha, hfound⟩ := List.mem_filterMap.mp h
    exact ⟨a, ha, .inl (strictMatch?_eq_some_iff.mp hfound).2⟩

theorem exists_alternative_of_decode {union : String} {encode : U → Option Json}
    {alternatives : List (Alternative U)} {value : Json} {cx : Context} {u : U}
    (h : decode union encode alternatives value cx = .ok u) :
    ∃ a ∈ alternatives, a.decode value cx.strict = .ok u ∨ a.decode value cx = .ok u := by
  obtain ⟨name, rest, hfound, -⟩ := choose_eq_ok_iff.mp h
  have hmem : (name, u) ∈ candidates alternatives value cx := by
    rw [hfound]
    exact List.mem_cons_self
  exact mem_candidates hmem

/-- Of the strict matches the first is `u`. -/
def First (alternatives : List (Alternative U)) (value : Json) (cx : Context) (u : U) : Prop :=
  ∃ name, alternatives.findSome? (strictMatch? value cx) = some (name, u)

theorem first_cons_of_ok {a : Alternative U} {rest : List (Alternative U)} {value : Json}
    {cx : Context} {u : U} (h : a.decode value cx.strict = .ok u) :
    First (a :: rest) value cx u := by
  have hmatch : strictMatch? value cx a = some (a.name, u) := strictMatch?_eq_some_iff.mpr ⟨rfl, h⟩
  exact ⟨a.name, by rw [List.findSome?_cons, hmatch]⟩

theorem first_cons_of_not {a : Alternative U} {rest : List (Alternative U)} {value : Json}
    {cx : Context} {u : U} (h : ∀ v, a.decode value cx.strict ≠ .ok v)
    (hrest : First rest value cx u) : First (a :: rest) value cx u := by
  obtain ⟨name, hname⟩ := hrest
  refine ⟨name, ?_⟩
  have hnone : strictMatch? value cx a = none := by
    rw [Option.eq_none_iff_forall_ne_some]
    exact fun found hfound => h found.2 (strictMatch?_eq_some_iff.mp hfound).2
  rw [List.findSome?_cons, hnone, hname]

theorem First.exists_alternative {alternatives : List (Alternative U)} {value : Json} {cx : Context}
    {u : U} (h : First alternatives value cx u) :
    ∃ a ∈ alternatives, a.decode value cx.strict = .ok u := by
  obtain ⟨name, hname⟩ := h
  obtain ⟨a, ha, hmatch⟩ := List.exists_of_findSome?_eq_some hname
  exact ⟨a, ha, (strictMatch?_eq_some_iff.mp hmatch).2⟩

theorem strictMatch?_map (f : U → V) (value : Json) (cx : Context) (a : Alternative U) :
    strictMatch? value cx (a.map f) = (strictMatch? value cx a).map (Prod.map id f) := by
  have hdecode : (a.map f).decode value cx.strict = (a.decode value cx.strict).map f := rfl
  unfold strictMatch?
  rw [hdecode]
  cases a.decode value cx.strict <;> rfl

theorem First.map (f : U → V) {alternatives : List (Alternative U)} {value : Json} {cx : Context}
    {u : U} (h : First alternatives value cx u) :
    First (alternatives.map (Alternative.map f)) value cx (f u) := by
  obtain ⟨name, hname⟩ := h
  refine ⟨name, ?_⟩
  rw [List.findSome?_map]
  have hcomp : strictMatch? value cx ∘ Alternative.map f =
      Option.map (Prod.map id f) ∘ strictMatch? value cx :=
    funext fun a => strictMatch?_map f value cx a
  rw [hcomp, ← List.map_findSome?, hname]
  rfl

theorem First.candidates_eq {alternatives : List (Alternative U)} {value : Json} {cx : Context}
    {u : U} (h : First alternatives value cx u) :
    ∃ name rest, candidates alternatives value cx = (name, u) :: rest ∧
      candidates alternatives value cx = alternatives.filterMap (strictMatch? value cx) := by
  obtain ⟨name, hname⟩ := h
  rw [← List.head?_filterMap, List.head?_eq_some_iff] at hname
  obtain ⟨rest, hrest⟩ := hname
  have hcandidates := candidates_of_strictMatch (hrest ▸ List.cons_ne_nil _ _)
  exact ⟨name, rest, hcandidates.trans hrest, hcandidates⟩

theorem First.eq_of_decode {union : String} {encode : U → Option Json}
    {alternatives : List (Alternative U)} {value : Json} {cx : Context} {u v : U}
    (h : First alternatives value cx u) (hv : decode union encode alternatives value cx = .ok v) :
    v = u := by
  obtain ⟨_, _, hfirst, -⟩ := h.candidates_eq
  obtain ⟨_, _, hfound, -⟩ := choose_eq_ok_iff.mp hv
  rw [hfirst] at hfound
  cases hfound
  rfl

theorem agree_of_forall_eq (value : Json) {encodings : List (Option Json)}
    (hne : encodings ≠ []) (h : ∀ encoding ∈ encodings, encoding = some value) :
    agree encodings = true := by
  cases encodings with
  | nil => exact absurd rfl hne
  | cons first rest =>
    rw [h first List.mem_cons_self, agree, List.all_eq_true]
    intro encoding hm
    rw [← h first List.mem_cons_self] at hm
    rw [h encoding hm]
    exact value.same_self

theorem First.decode_eq {union : String} {encode : U → Option Json}
    {alternatives : List (Alternative U)} {value : Json} {cx : Context} {u : U}
    (h : First alternatives value cx u)
    (hencode : ∀ a ∈ alternatives, ∀ v, a.decode value cx.strict = .ok v →
      encode v = some value) :
    decode union encode alternatives value cx = .ok u := by
  obtain ⟨name, rest, hfirst, hfound⟩ := h.candidates_eq
  refine choose_eq_ok_iff.mpr ⟨name, rest, hfirst, fun _ => ?_⟩
  refine agree_of_forall_eq value (by rw [hfirst]; exact List.cons_ne_nil _ _) fun encoding hm => ?_
  obtain ⟨found, hmem, rfl⟩ := List.mem_map.mp hm
  rw [hfound] at hmem
  obtain ⟨a, ha, hmatch⟩ := List.mem_filterMap.mp hmem
  exact hencode a ha found.2 (strictMatch?_eq_some_iff.mp hmatch).2

section Reads

variable {union : String} {encode : U → Option Json}
  {alternatives others : List (Alternative U)} {value : Json} {cx : Context}

def reads (alternatives : List (Alternative U)) (value : Json) (cx : Context) : Matches U :=
  alternatives.filterMap fun a => (a.decode value cx).toOption.map (a.name, ·)

theorem mem_reads_iff {found : String × U} :
    found ∈ reads alternatives value cx ↔
      ∃ a ∈ alternatives, a.name = found.1 ∧ a.decode value cx = .ok found.2 := by
  rw [reads, List.mem_filterMap]
  refine exists_congr fun a => and_congr_right fun _ => ?_
  cases a.decode value cx with
  | error e => exact ⟨fun h => (by cases h), fun h => (by cases h.2)⟩
  | ok u =>
    constructor
    · intro h
      cases h
      exact ⟨rfl, rfl⟩
    · rintro ⟨hname, hu⟩
      cases hu
      exact congrArg (fun name => some (name, found.2)) hname

theorem reads_cons (a : Alternative U) (rest : List (Alternative U)) :
    reads (a :: rest) value cx =
      ((a.decode value cx).toOption.map (a.name, ·)).toList ++ reads rest value cx := by
  rw [reads, List.filterMap_cons]
  cases (a.decode value cx).toOption <;> rfl

theorem reads_append :
    reads (alternatives ++ others) value cx =
      reads alternatives value cx ++ reads others value cx :=
  List.filterMap_append

theorem reads_map (f : U → V) :
    reads (alternatives.map (Alternative.map f)) value cx =
      (reads alternatives value cx).map (Prod.map id f) := by
  rw [reads, reads, List.filterMap_map, List.map_filterMap]
  refine List.filterMap_congr fun a _ => ?_
  change ((a.decode value cx).map f).toOption.map _ = _
  cases a.decode value cx <;> rfl

theorem filterMap_strictMatch? :
    alternatives.filterMap (strictMatch? value cx) = reads alternatives value cx.strict := by
  refine List.filterMap_congr fun a _ => ?_
  unfold strictMatch?
  cases a.decode value cx.strict <;> rfl

theorem decode_of_strict_reads (h : reads alternatives value cx.strict ≠ []) :
    decode union encode alternatives value cx =
      choose union encode cx.path (reads alternatives value cx.strict) := by
  rw [← filterMap_strictMatch?] at h ⊢
  rw [decode, candidates_of_strictMatch h]

theorem candidates_of_no_strict_reads (h : reads alternatives value cx.strict = []) :
    candidates alternatives value cx = reads alternatives value cx := by
  have hstrict : ∀ a ∈ alternatives, strictMatch? value cx a = none := by
    rw [← filterMap_strictMatch?] at h
    exact List.filterMap_eq_nil_iff.mp h
  have hlenient : alternatives.filterMap (lenientMatch? value cx) =
      reads alternatives value cx := by
    cases hreject : cx.options.rejectUnknownFields with
    | true =>
      rw [Context.strict_of_reject hreject] at h
      rw [h]
      exact List.filterMap_eq_nil_iff.mpr fun a _ => if_pos (by rw [hreject]; rfl)
    | false =>
      refine List.filterMap_congr fun a ha => ?_
      unfold lenientMatch?
      rw [hreject, hstrict a ha, if_neg (by simp)]
      cases a.decode value cx <;> rfl
  rw [candidates, List.filterMap_eq_nil_iff.mpr hstrict, hlenient]

theorem decode_of_no_strict_reads (h : reads alternatives value cx.strict = []) :
    decode union encode alternatives value cx =
      choose union encode cx.path (reads alternatives value cx) := by
  rw [decode, candidates_of_no_strict_reads h]

theorem decode_congr
    (hstrict : reads alternatives value cx.strict = reads others value cx.strict)
    (h : reads alternatives value cx = reads others value cx) :
    decode union encode alternatives value cx = decode union encode others value cx := by
  by_cases hnone : reads others value cx.strict = []
  · rw [decode_of_no_strict_reads (hstrict.trans hnone), decode_of_no_strict_reads hnone, h]
  · rw [decode_of_strict_reads (hstrict ▸ hnone), decode_of_strict_reads hnone, hstrict]

end Reads

end Union

theorem Schema.exists_alternative_of_decode {name : String} {variants : Variants} {value : Json}
    {cx : Context} {x : variants.Val}
    (h : (Schema.union name variants).decoder.decode value cx = .ok x) :
    ∃ a ∈ variants.alternatives, a.decode value cx.strict = .ok x ∨ a.decode value cx = .ok x := by
  change Union.decode name (fun x => some (variants.encode x)) variants.alternatives value cx =
    .ok x at h
  exact Union.exists_alternative_of_decode h

end LspWire
