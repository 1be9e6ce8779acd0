import LspWire.Conformance.Report
import LspWire.Proofs.AscendingTable

/-! What a report says about one fixture.
The fixtures of a run have different names, and the defect in a verdict is about the fixture it was
passed on. So what a report says about a fixture is what its verdict says, whatever the other
verdicts are; only the fixtures of an unknown type share one defect. -/

namespace LspWire

namespace Defect

def fixtures : Defect → List String
  | unexpectedFailure _ fixture _ => [fixture]
  | unexpectedSuccess _ fixture => [fixture]
  | unknownType _ fixtures => fixtures
  | unreadable fixture _ => [fixture]
  | roundTripMismatch _ fixture _ => [fixture]
  | panicked fixture _ => [fixture]

/-- The defect as far as it is about one fixture. -/
def only (id : String) : Defect → Defect
  | unknownType typeName _ => unknownType typeName [id]
  | defect => defect

end Defect

/-- The defect that a verdict puts into the report for its fixture. -/
def Verdict.due (fixture : Fixture) : Verdict → Option Defect
  | .pass => none
  | .fail defect => some defect
  | .unknownType => some (.unknownType fixture.name.typeName [fixture.id])

/-- A failure is about the fixture it was found in and not about what is registered. -/
def Verdict.About (id : String) (verdict : Verdict) : Prop :=
  ∀ defect, verdict = .fail defect → defect.fixtures = [id] ∧ defect.isConfiguration = false

theorem Verdict.about_pass (id : String) : Verdict.About id .pass := fun _ h => (by cases h)

theorem Verdict.about_unknownType (id : String) : Verdict.About id .unknownType :=
  fun _ h => (by cases h)

theorem Verdict.about_fail {id : String} {defect : Defect} (hfixtures : defect.fixtures = [id])
    (hconfiguration : defect.isConfiguration = false) : Verdict.About id (.fail defect) :=
  fun _ h => (by cases h; exact ⟨hfixtures, hconfiguration⟩)

theorem Verdict.About.only_eq {id : String} {defect : Defect}
    (h : Verdict.About id (.fail defect)) (other : String) : defect.only other = defect := by
  have hconfiguration := (h defect rfl).2
  cases defect with
  | unknownType => cases hconfiguration
  | _ => rfl

namespace Report

/-- What the report says about one fixture. -/
def about (r : Report) (id : String) : List Defect :=
  (r.defects.filter fun defect => id ∈ defect.fixtures).map (Defect.only id)

section

variable {verdicts : List (Fixture × Verdict)}

theorem inOrder_perm (verdicts : List (Fixture × Verdict)) : (inOrder verdicts).Perm verdicts :=
  List.mergeSort_perm _ _

theorem mem_unknown_iff {fixture : Fixture} :
    fixture ∈ unknown verdicts ↔ (fixture, .unknownType) ∈ verdicts := by
  simp only [unknown, List.mem_map, List.mem_filter]
  constructor
  · rintro ⟨⟨found, verdict⟩, ⟨hmem, hunknown⟩, rfl⟩
    cases verdict with
    | unknownType => exact hmem
    | _ => cases hunknown
  · intro hmem
    exact ⟨(fixture, .unknownType), ⟨hmem, rfl⟩, rfl⟩

theorem unknown_ids_sublist (verdicts : List (Fixture × Verdict)) :
    ((unknown verdicts).map (·.id)).Sublist (verdicts.map (·.1.id)) := by
  rw [unknown, List.map_map]
  exact List.Sublist.map _ List.filter_sublist

theorem filter_failures (habout : ∀ entry ∈ verdicts, entry.2.About entry.1.id) (id : String) :
    (verdicts.filterMap (·.2.defect?)).filter (fun defect => id ∈ defect.fixtures) =
      (verdicts.filter (·.1.id == id)).filterMap (·.2.defect?) := by
  rw [List.filter_filterMap, List.filterMap_filter]
  refine List.filterMap_congr fun entry hentry => ?_
  obtain ⟨fixture, verdict⟩ := entry
  cases verdict with
  | fail defect =>
    have hfixtures : defect.fixtures = [fixture.id] := (habout _ hentry defect rfl).1
    rw [Verdict.defect?, Option.filter_some, hfixtures]
    by_cases hid : fixture.id = id
    · simp [hid]
    · simp [hid, Ne.symm hid]
  | pass => simp [Verdict.defect?]
  | unknownType => simp [Verdict.defect?]

theorem mem_typeNames_iff {fixtures : List Fixture} {typeName : String} :
    typeName ∈ typeNames fixtures ↔ ∃ fixture ∈ fixtures, fixture.name.typeName = typeName := by
  rw [typeNames, List.mem_mergeSort, List.mem_eraseDups, List.mem_map]

theorem nodup_eraseDups (names : List String) : names.eraseDups.Nodup := by
  match names with
  | [] => exact List.nodup_nil
  | name :: rest =>
    rw [List.eraseDups_cons, List.nodup_cons, List.mem_eraseDups]
    exact ⟨by simp, nodup_eraseDups _⟩
termination_by names.length
decreasing_by exact Nat.lt_succ_of_le (List.length_filter_le _ _)

theorem typeNames_nodup (fixtures : List Fixture) : (typeNames fixtures).Nodup := by
  rw [typeNames, (List.mergeSort_perm _ _).nodup_iff]
  exact nodup_eraseDups _

theorem filter_unknownDefects {fixtures : List Fixture} (hnodup : (fixtures.map (·.id)).Nodup)
    {fixture : Fixture} (hfixture : fixture ∈ fixtures) :
    (unknownDefects fixtures).filter (fun defect => fixture.id ∈ defect.fixtures) =
      [.unknownType fixture.name.typeName ((fixtures.filter
        (·.name.typeName == fixture.name.typeName)).map (·.id))] := by
  have hshared : ∀ typeName, decide (fixture.id ∈
      (fixtures.filter (·.name.typeName == typeName)).map (·.id)) =
        (typeName == fixture.name.typeName) := by
    intro typeName
    rw [Bool.eq_iff_iff, decide_eq_true_eq, beq_iff_eq, List.mem_map]
    constructor
    · rintro ⟨other, hother, hid⟩
      obtain ⟨hother, htype⟩ := List.mem_filter.mp hother
      rw [List.inj_on_of_nodup_map hnodup hother hfixture hid] at htype
      exact (beq_iff_eq.mp htype).symm
    · rintro rfl
      exact ⟨fixture, List.mem_filter.mpr ⟨hfixture, beq_self_eq_true _⟩, rfl⟩
  have hname : fixture.name.typeName ∈ typeNames fixtures :=
    mem_typeNames_iff.mpr ⟨fixture, hfixture, rfl⟩
  rw [unknownDefects, List.filter_map]
  change List.map _ (List.filter (fun typeName => decide (fixture.id ∈
    (fixtures.filter (·.name.typeName == typeName)).map (·.id))) _) = _
  simp only [hshared]
  rw [List.filter_beq, List.count_eq_one_of_mem (typeNames_nodup fixtures) hname]
  rfl

theorem filter_unknownDefects_eq_nil {fixtures : List Fixture} {id : String}
    (hid : id ∉ fixtures.map (·.id)) :
    (unknownDefects fixtures).filter (fun defect => id ∈ defect.fixtures) = [] := by
  rw [List.filter_eq_nil_iff]
  intro defect hdefect
  obtain ⟨typeName, -, rfl⟩ := List.mem_map.mp hdefect
  rw [decide_eq_true_eq]
  exact fun hmem => hid ((List.filter_sublist.map _).subset hmem)

theorem id_notMem_unknown (hnodup : (verdicts.map (·.1.id)).Nodup) {fixture : Fixture}
    {verdict : Verdict} (hmem : (fixture, verdict) ∈ verdicts) (hverdict : verdict ≠ .unknownType) :
    fixture.id ∉ (unknown verdicts).map (·.id) := by
  rw [List.mem_map]
  rintro ⟨other, hother, hid⟩
  have heq := List.inj_on_of_nodup_map hnodup (mem_unknown_iff.mp hother) hmem hid
  exact hverdict (congrArg Prod.snd heq).symm

variable {source : String} {skipped : Nat}

theorem about_of_mem (hnodup : (verdicts.map (·.1.id)).Nodup)
    (habout : ∀ entry ∈ verdicts, entry.2.About entry.1.id) {fixture : Fixture} {verdict : Verdict}
    (hmem : (fixture, verdict) ∈ verdicts) :
    (ofVerdicts source skipped verdicts).about fixture.id = (verdict.due fixture).toList := by
  have hperm := inOrder_perm verdicts
  have hordered : ((inOrder verdicts).map (·.1.id)).Nodup := (hperm.map _).nodup_iff.mpr hnodup
  have hentry : (fixture, verdict) ∈ inOrder verdicts := hperm.mem_iff.mpr hmem
  rw [about, ofVerdicts, List.filter_append,
    filter_failures (fun entry h => habout entry (hperm.mem_iff.mp h)),
    filter_key_eq_singleton (fun entry => entry.1.id) hordered hentry]
  cases verdict with
  | pass =>
    rw [filter_unknownDefects_eq_nil (id_notMem_unknown hordered hentry (by simp))]
    rfl
  | fail defect =>
    rw [filter_unknownDefects_eq_nil (id_notMem_unknown hordered hentry (by simp))]
    exact congrArg (fun kept => [kept]) ((habout _ hmem).only_eq fixture.id)
  | unknownType =>
    rw [filter_unknownDefects ((unknown_ids_sublist _).nodup hordered) (mem_unknown_iff.mpr hentry)]
    rfl

theorem about_of_notMem (habout : ∀ entry ∈ verdicts, entry.2.About entry.1.id) {id : String}
    (hid : id ∉ verdicts.map (·.1.id)) : (ofVerdicts source skipped verdicts).about id = [] := by
  have hperm := inOrder_perm verdicts
  have hnone : id ∉ (inOrder verdicts).map (·.1.id) := fun h => hid ((hperm.map _).mem_iff.mp h)
  have hothers : (inOrder verdicts).filter (·.1.id == id) = [] := by
    rw [List.filter_eq_nil_iff]
    exact fun entry hentry heq => hnone (List.mem_map.mpr ⟨entry, hentry, beq_iff_eq.mp heq⟩)
  rw [about, ofVerdicts, List.filter_append,
    filter_failures (fun entry h => habout entry (hperm.mem_iff.mp h)), hothers,
    filter_unknownDefects_eq_nil fun h => hnone ((unknown_ids_sublist _).subset h)]
  rfl

theorem about_eq_nil_iff (r : Report) (id : String) :
    r.about id = [] ↔ ∀ defect ∈ r.defects, id ∉ defect.fixtures := by
  rw [about, List.map_eq_nil_iff, List.filter_eq_nil_iff]
  simp only [decide_eq_true_eq]

theorem isSuccess_iff :
    (ofVerdicts source skipped verdicts).isSuccess = true ↔
      ∀ entry ∈ verdicts, entry.2 = .pass := by
  have hperm := inOrder_perm verdicts
  rw [isSuccess, List.isEmpty_iff, ofVerdicts, List.append_eq_nil_iff, List.filterMap_eq_nil_iff,
    unknownDefects, List.map_eq_nil_iff]
  constructor
  · rintro ⟨hfailures, hunknown⟩ ⟨fixture, verdict⟩ hmem
    have hentry := hperm.mem_iff.mpr hmem
    cases verdict with
    | pass => rfl
    | fail defect => cases hfailures _ hentry
    | unknownType =>
      have hname : fixture.name.typeName ∈ typeNames (unknown (inOrder verdicts)) :=
        mem_typeNames_iff.mpr ⟨fixture, mem_unknown_iff.mpr hentry, rfl⟩
      rw [hunknown] at hname
      cases hname
  · intro hpass
    have hordered : ∀ entry ∈ inOrder verdicts, entry.2 = .pass := fun entry hentry =>
      hpass entry (hperm.mem_iff.mp hentry)
    constructor
    · intro entry hentry
      rw [hordered entry hentry]
      rfl
    · rw [List.eq_nil_iff_forall_not_mem]
      intro typeName hname
      obtain ⟨fixture, hfixture, -⟩ := mem_typeNames_iff.mp hname
      cases hordered _ (mem_unknown_iff.mp hfixture)

end

end Report

end LspWire
