import LspWire.Proofs.FixtureReport

/-! The account of all verdicts.
Taken in order of the fixtures' names, each verdict goes to one of three places: passes are counted,
failures listed, and fixtures of unknown types entered under their type. So a report loses nothing
and has nothing twice, and where names differ it does not depend on the order of the verdicts. -/

namespace LspWire

namespace NameTable

variable {β : Type}

theorem flatMap_insertInto_perm (name : String) (x : β) {entries : List (String × List β)}
    (h : Ascending entries) :
    ((insertInto name ((find? entries name).getD [] ++ [x]) entries).flatMap (·.2)).Perm
      (entries.flatMap (·.2) ++ [x]) := by
  induction entries with
  | nil => exact .refl _
  | cons head rest ih =>
    obtain ⟨other, held⟩ := head
    obtain ⟨hhead, hrest⟩ := List.pairwise_cons.mp h
    rw [insertInto]
    split
    · next hlt =>
      have hnone : find? ((other, held) :: rest) name = none :=
        find?_eq_none_of_lt (List.forall_mem_cons.mpr
          ⟨hlt, fun entry hentry => String.lt_trans hlt (hhead entry hentry)⟩)
      rw [hnone]
      exact (List.perm_append_singleton x _).symm
    split
    · next heq =>
      rw [find?, if_pos heq.symm, Option.getD_some, List.flatMap_cons, List.flatMap_cons,
        List.append_assoc, List.append_assoc]
      exact List.perm_append_comm.append_left held
    · next hne =>
      rw [find?, if_neg (Ne.symm hne), List.flatMap_cons, List.flatMap_cons, List.append_assoc]
      exact (ih hrest).append_left held

end NameTable

namespace Report

def idsOf (typeName : String) (verdicts : List (Fixture × Verdict)) : List String :=
  (verdicts.filter fun entry => entry.2.isUnknown && entry.1.name.typeName == typeName).map (·.1.id)

variable (typeName : String) (verdicts : List (Fixture × Verdict)) (fixture : Fixture)
  (verdict : Verdict)

theorem idsOf_concat :
    idsOf typeName (verdicts ++ [(fixture, verdict)]) =
      idsOf typeName verdicts ++
        if verdict.isUnknown && fixture.name.typeName == typeName then [fixture.id] else [] := by
  simp only [idsOf, List.filter_append, List.map_append, List.filter_cons, List.filter_nil]
  split <;> rfl

theorem unknown_concat :
    unknown (verdicts ++ [(fixture, verdict)]) =
      unknown verdicts ++ if verdict.isUnknown then [fixture] else [] := by
  simp only [unknown, List.filter_append, List.map_append, List.filter_cons, List.filter_nil]
  split <;> rfl

variable {typeName verdicts}

theorem idsOf_eq :
    idsOf typeName verdicts =
      ((unknown verdicts).filter (·.name.typeName == typeName)).map (·.id) := by
  rw [idsOf, unknown, List.filter_map, List.filter_filter, List.map_map]
  simp only [Function.comp_apply, Bool.and_comm]
  rfl

theorem idsOf_ne_nil_iff :
    idsOf typeName verdicts ≠ [] ↔
      ∃ fixture ∈ unknown verdicts, fixture.name.typeName = typeName := by
  rw [idsOf_eq, Ne, List.map_eq_nil_iff, List.filter_eq_nil_iff]
  simp

theorem pairwise_mergeSort_by {α : Type} (key : α → String) (entries : List α) :
    (entries.mergeSort fun a b => decide (key a ≤ key b)).Pairwise fun a b => key a ≤ key b := by
  refine (List.pairwise_mergeSort (fun a b c hab hbc => ?_) (fun a b => ?_) _).imp
    of_decide_eq_true
  · exact decide_eq_true (String.le_trans (of_decide_eq_true hab) (of_decide_eq_true hbc))
  · simpa using String.le_total (key a) (key b)

end Report

open Report

def Defect.ofGroup (group : String × List String) : Defect := .unknownType group.1 group.2

/-- What has been made of the verdicts so far: the passes counted, the failures listed, and the
fixtures of each unknown type. -/
structure Tally where
  passed : Nat
  failures : List Defect
  groups : NameTable (List String)

namespace Tally

def empty : Tally := ⟨0, [], .empty⟩

def add (t : Tally) (entry : Fixture × Verdict) : Tally :=
  match entry.2 with
  | .pass => { t with passed := t.passed + 1 }
  | .fail defect => { t with failures := t.failures ++ [defect] }
  | .unknownType =>
    let typeName := entry.1.name.typeName
    let ids := (t.groups.get? typeName).getD [] ++ [entry.1.id]
    { t with groups := t.groups.insert typeName ids }

def ofVerdicts (verdicts : List (Fixture × Verdict)) : Tally := verdicts.foldl add empty

def defects (t : Tally) : List Defect := t.failures ++ t.groups.entries.map Defect.ofGroup

/-- The tally is that of these verdicts: each is in one place, and the groups are in order. -/
structure Holds (t : Tally) (verdicts : List (Fixture × Verdict)) : Prop where
  passed : t.passed = verdicts.countP (·.2.isPass)
  failures : t.failures = verdicts.filterMap (·.2.defect?)
  ascending : Ascending t.groups.entries
  group : ∀ typeName ids, t.groups.get? typeName = some ids ↔
    ids = idsOf typeName verdicts ∧ ids ≠ []
  ids : (t.groups.entries.flatMap (·.2)).Perm ((unknown verdicts).map (·.id))
  size : t.passed + t.failures.length + (t.groups.entries.flatMap (·.2)).length = verdicts.length

variable {t : Tally} {verdicts : List (Fixture × Verdict)}

theorem holds_empty : empty.Holds [] where
  passed := rfl
  failures := rfl
  ascending := List.Pairwise.nil
  group typeName ids := by
    refine iff_of_false (fun h => by cases h) ?_
    rintro ⟨rfl, hne⟩
    exact hne rfl
  ids := .refl _
  size := rfl

theorem Holds.getD_get? (h : t.Holds verdicts) (typeName : String) :
    (t.groups.get? typeName).getD [] = idsOf typeName verdicts := by
  cases hget : t.groups.get? typeName with
  | some ids => exact ((h.group typeName ids).mp hget).1
  | none =>
    by_contra hne
    have hsome := (h.group typeName (idsOf typeName verdicts)).mpr ⟨rfl, Ne.symm hne⟩
    rw [hget] at hsome
    cases hsome

theorem Holds.add (h : t.Holds verdicts) (entry : Fixture × Verdict) :
    (t.add entry).Holds (verdicts ++ [entry]) := by
  obtain ⟨fixture, verdict⟩ := entry
  cases verdict with
  | pass =>
    refine ⟨?_, ?_, h.ascending, ?_, ?_, ?_⟩
    · simp [Tally.add, h.passed, Verdict.isPass]
    · simp [Tally.add, h.failures, Verdict.defect?]
    · simpa [Tally.add, idsOf_concat, Verdict.isUnknown] using h.group
    · simpa [Tally.add, unknown_concat, Verdict.isUnknown] using h.ids
    · simp only [Tally.add, List.length_append, List.length_singleton, ← h.size]
      omega
  | fail defect =>
    refine ⟨?_, ?_, h.ascending, ?_, ?_, ?_⟩
    · simp [Tally.add, h.passed, Verdict.isPass]
    · simp [Tally.add, h.failures, Verdict.defect?]
    · simpa [Tally.add, idsOf_concat, Verdict.isUnknown] using h.group
    · simpa [Tally.add, unknown_concat, Verdict.isUnknown] using h.ids
    · simp only [Tally.add, List.length_append, List.length_singleton, ← h.size]
      omega
  | unknownType =>
    have hgroups := NameTable.flatMap_insertInto_perm fixture.name.typeName fixture.id h.ascending
    refine ⟨?_, ?_, NameTable.ascending_insertInto _ _ h.ascending, fun typeName ids => ?_, ?_, ?_⟩
    · simp [Tally.add, h.passed, Verdict.isPass]
    · simp [Tally.add, h.failures, Verdict.defect?]
    · simp only [Tally.add, NameTable.get?_insert, h.getD_get?, idsOf_concat, Verdict.isUnknown,
        Bool.true_and, beq_iff_eq]
      by_cases htype : fixture.name.typeName = typeName
      · rw [if_pos htype, if_pos htype, htype, Option.some_inj]
        constructor
        · rintro rfl
          exact ⟨rfl, by simp⟩
        · exact fun hids => hids.1.symm
      · simpa [htype] using h.group typeName ids
    · rw [unknown_concat, List.map_append]
      exact hgroups.trans (h.ids.append_right _)
    · have hlength := hgroups.length_eq
      simp only [Tally.add, NameTable.insert, NameTable.get?, List.length_append,
        List.length_singleton, ← h.size] at hlength ⊢
      omega

theorem Holds.foldl (h : t.Holds verdicts) (rest : List (Fixture × Verdict)) :
    (rest.foldl Tally.add t).Holds (verdicts ++ rest) := by
  induction rest generalizing t verdicts with
  | nil => rwa [List.append_nil]
  | cons entry rest ih =>
    rw [List.append_cons]
    exact ih (h.add entry)

theorem holds_ofVerdicts (verdicts : List (Fixture × Verdict)) :
    (ofVerdicts verdicts).Holds verdicts :=
  holds_empty.foldl verdicts

theorem Holds.mem_names_iff (h : t.Holds verdicts) (typeName : String) :
    typeName ∈ t.groups.names ↔ typeName ∈ typeNames (unknown verdicts) := by
  rw [NameTable.mem_names_iff, mem_typeNames_iff, ← idsOf_ne_nil_iff, Option.isSome_iff_exists]
  constructor
  · rintro ⟨ids, hids⟩
    obtain ⟨rfl, hne⟩ := (h.group typeName ids).mp hids
    exact hne
  · exact fun hne => ⟨_, (h.group typeName _).mpr ⟨rfl, hne⟩⟩

theorem Holds.eq_idsOf_of_mem (h : t.Holds verdicts) {group : String × List String}
    (hgroup : group ∈ t.groups.entries) : group.2 = idsOf group.1 verdicts := by
  have hget : t.groups.get? group.1 = some group.2 :=
    NameTable.find?_of_mem h.ascending.names_nodup hgroup
  exact ((h.group group.1 group.2).mp hget).1

theorem Holds.entries_eq (h : t.Holds verdicts) :
    t.groups.entries =
      (typeNames (unknown verdicts)).map fun typeName => (typeName, idsOf typeName verdicts) := by
  have hnames : t.groups.names = typeNames (unknown verdicts) := by
    refine List.Perm.eq_of_pairwise (fun _ _ _ _ => String.le_antisymm) ?_
      (pairwise_mergeSort_by id _) ?_
    · exact List.pairwise_map.mpr
        (h.ascending.imp fun hlt => String.not_lt.mp (String.lt_asymm hlt))
    · exact (List.perm_ext_iff_of_nodup h.ascending.names_nodup (typeNames_nodup _)).mpr
        h.mem_names_iff
  rw [← hnames, NameTable.names, List.map_map]
  refine (List.map_id _).symm.trans (List.map_congr_left fun group hgroup => ?_)
  exact Prod.ext rfl (h.eq_idsOf_of_mem hgroup)

end Tally

namespace Report

variable {verdicts : List (Fixture × Verdict)} {source : String} {skipped : Nat}

theorem ofVerdicts_eq_tally :
    ofVerdicts source skipped verdicts =
      { source, skipped
        discovered := verdicts.length
        passed := (Tally.ofVerdicts (inOrder verdicts)).passed
        defects := (Tally.ofVerdicts (inOrder verdicts)).defects } := by
  have h := Tally.holds_ofVerdicts (inOrder verdicts)
  rw [ofVerdicts, h.passed, Tally.defects, h.failures, h.entries_eq, List.map_map]
  simp only [unknownDefects, idsOf_eq]
  rfl

def groupedIds (r : Report) : List String :=
  (r.defects.filter (·.isConfiguration)).flatMap Defect.fixtures

def failed (verdicts : List (Fixture × Verdict)) : List (String × Defect) :=
  verdicts.filterMap fun entry => entry.2.defect?.map (entry.1.id, ·)

/-- Failures in order of the fixtures' names, and behind them the fixtures of unknown types under
their type names, in order of both. -/
structure Lists (verdicts : List (Fixture × Verdict)) (failures : List (String × Defect))
    (groups : List (String × List String)) : Prop where
  failures_perm : failures.Perm (failed verdicts)
  failures_ordered : failures.Pairwise fun a b => a.1 ≤ b.1
  ascending : Ascending groups
  mem_names_iff : ∀ typeName, typeName ∈ groups.map (·.1) ↔
    ∃ fixture, (fixture, Verdict.unknownType) ∈ verdicts ∧ fixture.name.typeName = typeName
  group_perm : ∀ group ∈ groups, group.2.Perm (idsOf group.1 verdicts)
  group_ordered : ∀ group ∈ groups, group.2.Pairwise (· ≤ ·)

/-- The report accounts for each of the verdicts, in one place. -/
structure Accounts (r : Report) (verdicts : List (Fixture × Verdict)) : Prop where
  discovered : r.discovered = verdicts.length
  passed : r.passed = verdicts.countP (·.2.isPass)
  passed_le : r.passed ≤ r.discovered
  total : r.passed + verdicts.countP (·.2.defect?.isSome) + r.groupedIds.length = r.discovered
  success : r.isSuccess = true ↔ r.passed = r.discovered
  occurrences : ∀ entry ∈ verdicts, ∀ defect, entry.2 = .fail defect →
    r.defects.count defect = (verdicts.map (·.2)).count (.fail defect)
  grouped : r.groupedIds.Perm ((unknown verdicts).map (·.id))
  listed : ∃ failures groups, Lists verdicts failures groups ∧
    r.defects = failures.map (·.2) ++ groups.map Defect.ofGroup

theorem inOrder_pairwise (verdicts : List (Fixture × Verdict)) :
    (inOrder verdicts).Pairwise fun a b => a.1.id ≤ b.1.id :=
  pairwise_mergeSort_by (fun entry : Fixture × Verdict => entry.1.id) verdicts

theorem map_failed (verdicts : List (Fixture × Verdict)) :
    (failed verdicts).map (·.2) = verdicts.filterMap (·.2.defect?) := by
  rw [failed, List.map_filterMap]
  refine List.filterMap_congr fun entry _ => ?_
  rw [Option.map_map]
  exact congrFun Option.map_id _

theorem lists_inOrder (verdicts : List (Fixture × Verdict)) :
    Lists verdicts (failed (inOrder verdicts))
      (Tally.ofVerdicts (inOrder verdicts)).groups.entries := by
  have hperm := inOrder_perm verdicts
  have h := Tally.holds_ofVerdicts (inOrder verdicts)
  refine ⟨hperm.filterMap _, ?_, h.ascending, fun typeName => ?_, fun group hmem => ?_,
    fun group hmem => ?_⟩
  · refine (inOrder_pairwise verdicts).filterMap _ fun a b hab x hx y hy => ?_
    obtain ⟨_, -, rfl⟩ := Option.map_eq_some_iff.mp hx
    obtain ⟨_, -, rfl⟩ := Option.map_eq_some_iff.mp hy
    exact hab
  · refine (h.mem_names_iff typeName).trans
      (mem_typeNames_iff.trans (exists_congr fun fixture => ?_))
    rw [mem_unknown_iff, hperm.mem_iff]
  · rw [h.eq_idsOf_of_mem hmem]
    exact (hperm.filter _).map _
  · rw [h.eq_idsOf_of_mem hmem]
    exact List.pairwise_map.mpr ((inOrder_pairwise verdicts).filter _)

theorem count_failures (verdicts : List (Fixture × Verdict)) (defect : Defect) :
    (verdicts.filterMap (·.2.defect?)).count defect =
      (verdicts.map (·.2)).count (.fail defect) := by
  induction verdicts with
  | nil => rfl
  | cons entry rest ih =>
    obtain ⟨fixture, verdict⟩ := entry
    cases verdict with
    | fail found =>
      change (found :: rest.filterMap (·.2.defect?)).count defect = _
      rw [List.map_cons, List.count_cons, List.count_cons, ih]
      simp
    | pass => rw [List.filterMap_cons_none rfl, List.map_cons, List.count_cons_of_ne (by simp), ih]
    | unknownType =>
      rw [List.filterMap_cons_none rfl, List.map_cons, List.count_cons_of_ne (by simp), ih]

theorem filter_configuration {failures : List Defect} {groups : List (String × List String)}
    (hplain : ∀ defect ∈ failures, defect.isConfiguration = false) :
    (failures ++ groups.map Defect.ofGroup).filter (·.isConfiguration) =
      groups.map Defect.ofGroup := by
  have hfailures : failures.filter (·.isConfiguration) = [] :=
    List.filter_eq_nil_iff.mpr fun defect hdefect => by simp [hplain defect hdefect]
  have hgroups : (groups.map Defect.ofGroup).filter (·.isConfiguration) =
      groups.map Defect.ofGroup := by
    refine List.filter_eq_self.mpr fun defect hdefect => ?_
    obtain ⟨group, -, rfl⟩ := List.mem_map.mp hdefect
    rfl
  rw [List.filter_append, hfailures, hgroups, List.nil_append]

/-- No failure lies in what is registered. -/
def Plain (verdicts : List (Fixture × Verdict)) : Prop :=
  ∀ entry ∈ verdicts, ∀ defect, entry.2 = .fail defect → defect.isConfiguration = false

theorem Plain.failures (h : Plain verdicts) :
    ∀ defect ∈ (inOrder verdicts).filterMap (·.2.defect?), defect.isConfiguration = false := by
  intro defect hdefect
  obtain ⟨⟨fixture, verdict⟩, hentry, hverdict⟩ := List.mem_filterMap.mp hdefect
  cases verdict with
  | fail found => cases hverdict; exact h _ ((inOrder_perm verdicts).mem_iff.mp hentry) defect rfl
  | _ => cases hverdict

theorem defects_ofVerdicts :
    (ofVerdicts source skipped verdicts).defects =
      (inOrder verdicts).filterMap (·.2.defect?) ++
        (Tally.ofVerdicts (inOrder verdicts)).groups.entries.map Defect.ofGroup := by
  rw [ofVerdicts_eq_tally, Tally.defects, (Tally.holds_ofVerdicts (inOrder verdicts)).failures]

theorem groupedIds_ofVerdicts (hplain : Plain verdicts) :
    (ofVerdicts source skipped verdicts).groupedIds =
      (Tally.ofVerdicts (inOrder verdicts)).groups.entries.flatMap (·.2) := by
  rw [groupedIds, defects_ofVerdicts, filter_configuration hplain.failures, List.flatMap_map]
  rfl

theorem passed_eq_discovered_iff :
    (ofVerdicts source skipped verdicts).passed = (ofVerdicts source skipped verdicts).discovered ↔
      ∀ entry ∈ verdicts, entry.2 = .pass := by
  change (inOrder verdicts).countP (·.2.isPass) = verdicts.length ↔ _
  rw [(inOrder_perm verdicts).countP_eq, List.countP_eq_length]
  refine forall₂_congr fun entry _ => ?_
  cases entry.2 <;> simp [Verdict.isPass]

theorem passed_add_failed_add_grouped (hplain : Plain verdicts) :
    (ofVerdicts source skipped verdicts).passed + verdicts.countP (·.2.defect?.isSome) +
        (ofVerdicts source skipped verdicts).groupedIds.length =
      (ofVerdicts source skipped verdicts).discovered := by
  have hperm := inOrder_perm verdicts
  have h := Tally.holds_ofVerdicts (inOrder verdicts)
  have hfailures : (Tally.ofVerdicts (inOrder verdicts)).failures.length =
      verdicts.countP (·.2.defect?.isSome) := by
    rw [h.failures, List.length_filterMap_eq_countP, hperm.countP_eq]
  rw [groupedIds_ofVerdicts hplain, ← hfailures, ofVerdicts_eq_tally, h.size]
  exact hperm.length_eq

theorem count_defects (hplain : Plain verdicts) {entry : Fixture × Verdict}
    (hentry : entry ∈ verdicts) {defect : Defect} (hdefect : entry.2 = .fail defect) :
    (ofVerdicts source skipped verdicts).defects.count defect =
      (verdicts.map (·.2)).count (.fail defect) := by
  have hgroups : ∀ groups : List (String × List String),
      (groups.map Defect.ofGroup).count defect = 0 := by
    refine fun groups => List.count_eq_zero.mpr fun hmem => ?_
    obtain ⟨group, -, rfl⟩ := List.mem_map.mp hmem
    cases hplain entry hentry _ hdefect
  rw [defects_ofVerdicts, List.count_append, hgroups, count_failures,
    ((inOrder_perm verdicts).map _).count_eq]
  rfl

theorem ofVerdicts_accounts (hplain : Plain verdicts) :
    (ofVerdicts source skipped verdicts).Accounts verdicts := by
  have hperm := inOrder_perm verdicts
  have htotal : (ofVerdicts source skipped verdicts).passed + _ + _ = _ :=
    passed_add_failed_add_grouped hplain
  refine ⟨rfl, hperm.countP_eq _, by omega, htotal, ?_, ?_, ?_, ?_⟩
  · rw [isSuccess_iff, passed_eq_discovered_iff]
  · exact fun entry hentry defect hdefect => count_defects hplain hentry hdefect
  · rw [groupedIds_ofVerdicts hplain]
    exact (Tally.holds_ofVerdicts _).ids.trans (((hperm.filter _).map _).map _)
  · exact ⟨_, _, lists_inOrder verdicts, by rw [defects_ofVerdicts, map_failed]⟩

theorem inOrder_eq_of_perm (hnodup : (verdicts.map (·.1.id)).Nodup)
    {others : List (Fixture × Verdict)} (hothers : others.Perm verdicts) :
    inOrder others = inOrder verdicts := by
  refine List.Perm.eq_of_pairwise (fun a b ha hb hab hba => ?_) (inOrder_pairwise others)
    (inOrder_pairwise verdicts)
    ((inOrder_perm others).trans (hothers.trans (inOrder_perm verdicts).symm))
  have ha := hothers.mem_iff.mp ((inOrder_perm others).mem_iff.mp ha)
  have hb := (inOrder_perm verdicts).mem_iff.mp hb
  exact List.inj_on_of_nodup_map hnodup ha hb (String.le_antisymm hab hba)

/-- A report is a full account of the verdicts, each of which is in one place of it, and the order
in which the verdicts came does not show where the names of the fixtures differ. -/
theorem verdicts_accounted (source : String) (skipped : Nat) {verdicts : List (Fixture × Verdict)}
    (hplain : Plain verdicts) :
    (ofVerdicts source skipped verdicts).Accounts verdicts ∧
      ((verdicts.map (·.1.id)).Nodup → ∀ others : List (Fixture × Verdict),
        others.Perm verdicts →
          ofVerdicts source skipped others = ofVerdicts source skipped verdicts) := by
  refine ⟨ofVerdicts_accounts hplain, fun hnodup others hothers => ?_⟩
  rw [ofVerdicts, ofVerdicts, inOrder_eq_of_perm hnodup hothers, hothers.length_eq]

theorem verdicts_accounted_accepted :
    let fixture (typeName id : String) : Fixture := ⟨id, typeName, .reject, ""⟩
    let accepted : Defect := .unexpectedSuccess "Range" "b"
    let verdicts : List (Fixture × Verdict) := [(fixture "Rung" "c", .unknownType),
      (fixture "Range" "b", .fail accepted), (fixture "Rung" "a", .unknownType)]
    Plain verdicts ∧ (verdicts.map (·.1.id)).Nodup ∧
      (ofVerdicts "memory" 0 verdicts).groupedIds.Perm ["c", "a"] ∧
      ofVerdicts "memory" 0 verdicts.reverse = ofVerdicts "memory" 0 verdicts := by
  intro fixture accepted verdicts
  have hplain : Plain verdicts := by simp [Plain, verdicts, accepted, Defect.isConfiguration]
  have hnodup : (verdicts.map (·.1.id)).Nodup := by decide
  obtain ⟨haccounts, hperm⟩ := verdicts_accounted "memory" 0 hplain
  exact ⟨hplain, hnodup, haccounts.grouped, hperm hnodup _ (List.reverse_perm verdicts)⟩

end Report

end LspWire
