import LspWire.Proofs.FixtureVerdict

/-! Runs over files in memory.
Every file of a source is a fixture or passed over, and each fixture gets the verdict on its own
content. The report says of each what its verdict says, so it is known from a file's name and
content alone what a report says about it, whatever other files there are. -/

namespace LspWire

open Text (Octets)

def Fixture.ofFile? (id : String) : Option Fixture := (FixtureName.parse? id).map (Fixture.mk id)

theorem Fixture.ofFile?_eq_some_iff {id : String} {fixture : Fixture} :
    ofFile? id = some fixture ↔
      fixture.id = id ∧ FixtureName.parse? fixture.id = some fixture.name := by
  obtain ⟨own, name⟩ := fixture
  rw [ofFile?, Option.map_eq_some_iff]
  constructor
  · rintro ⟨found, hfound, heq⟩
    cases heq
    exact ⟨rfl, hfound⟩
  · rintro ⟨rfl, hname⟩
    exact ⟨name, hname, rfl⟩

theorem Listing.foldl_add (names : List String) (listing : Listing) :
    names.foldl (fun (listing : Listing) name => listing.add name name) listing =
      ⟨listing.fixtures ++ names.filterMap Fixture.ofFile?,
        listing.skipped ++ names.filter fun name => (FixtureName.parse? name).isNone⟩ := by
  induction names generalizing listing with
  | nil => simp
  | cons name rest ih =>
    rw [List.foldl_cons, ih, add, List.filterMap_cons, List.filter_cons, Fixture.ofFile?]
    cases FixtureName.parse? name <;> simp

theorem ids_filterMap_ofFile (names : List String) :
    (names.filterMap Fixture.ofFile?).map (·.id) =
      names.filter fun name => (FixtureName.parse? name).isSome := by
  induction names with
  | nil => rfl
  | cons name rest ih =>
    rw [List.filterMap_cons, List.filter_cons, ← ih, Fixture.ofFile?]
    cases FixtureName.parse? name <;> rfl

namespace MemoryFiles

def ofList (named : List (String × Octets)) : MemoryFiles := NameTable.empty.insertAll named

theorem names_nodup (named : List (String × Octets)) : (ofList named).names.Nodup :=
  (NameTable.ascending_insertAll named).names_nodup

variable (files : MemoryFiles)

theorem fixtures_perm : (list files).fixtures.Perm (files.names.filterMap Fixture.ofFile?) := by
  rw [list, Listing.foldl_add]
  exact List.mergeSort_perm _ _

theorem skipped_perm : (list files).skipped.Perm
    (files.names.filter fun name => (FixtureName.parse? name).isNone) := by
  rw [list, Listing.foldl_add]
  exact List.mergeSort_perm _ _

theorem ids_perm : ((list files).fixtures.map (·.id)).Perm
    (files.names.filter fun name => (FixtureName.parse? name).isSome) := by
  rw [← ids_filterMap_ofFile]
  exact (fixtures_perm files).map _

theorem mem_fixtures_iff {fixture : Fixture} :
    fixture ∈ (list files).fixtures ↔
      fixture.id ∈ files.names ∧ FixtureName.parse? fixture.id = some fixture.name := by
  rw [(fixtures_perm files).mem_iff, List.mem_filterMap]
  simp only [Fixture.ofFile?_eq_some_iff]
  exact ⟨fun ⟨_, hmem, rfl, hname⟩ => ⟨hmem, hname⟩, fun ⟨hmem, hname⟩ => ⟨_, hmem, rfl, hname⟩⟩

theorem length_fixtures : (list files).fixtures.length =
    files.names.countP fun name => (FixtureName.parse? name).isSome := by
  rw [← List.length_map (f := (·.id)), (ids_perm files).length_eq, List.countP_eq_length_filter]

theorem length_fixtures_add_length_skipped :
    (list files).fixtures.length + (list files).skipped.length = files.size := by
  have hsize : files.size = files.names.length := (List.length_map ..).symm
  rw [length_fixtures, (skipped_perm files).length_eq, ← List.countP_eq_length_filter, hsize,
    List.length_eq_countP_add_countP fun name => (FixtureName.parse? name).isSome]
  refine congrArg _ (List.countP_congr fun name _ => ?_)
  simp

end MemoryFiles

namespace Checker

open MemoryFiles (ofList)

variable {c : Checker}

theorem verdict_congr (c : Checker) {files others : MemoryFiles} {fixture : Fixture}
    (h : files.get? fixture.id = others.get? fixture.id) :
    c.verdict files.source fixture = c.verdict others.source fixture := by
  have hread : files.source.read fixture = others.source.read fixture := by
    simp only [MemoryFiles.source, MemoryFiles.read, h]
  rw [verdict, verdict, attempt, attempt, hread]

theorem attempt_eq {files : MemoryFiles} {fixture : Fixture} {content : Octets}
    (h : files.get? fixture.id = some content) :
    c.attempt files.source fixture =
      evaluate c.registry fixture content c.config.decodeOptions c.config.run.roundTrip := by
  have hread : files.source.read fixture = .finished (.ok content) := by
    simp only [MemoryFiles.source, MemoryFiles.read, h]
  rw [attempt, hread, Attempt.finished_bind]

theorem verdict_spec (hc : c.CrashFree) {files : MemoryFiles} {fixture : Fixture}
    {content : Octets} (h : files.get? fixture.id = some content) :
    (c.verdict files.source fixture).About fixture.id ∧
      (c.verdict files.source fixture = .pass ∧ c.Fits fixture.name content ∨
        ∃ defect, (c.verdict files.source fixture).due fixture = some defect ∧
          c.Dictates fixture content defect) := by
  obtain ⟨verdict, hverdict, hspec⟩ := exists_evaluate hc fixture content
  have hfound : c.verdict files.source fixture = verdict := by
    rw [Checker.verdict, attempt_eq h, hverdict]
    rfl
  rw [hfound]
  exact hspec

theorem verdict_eq_pass_iff (hc : c.CrashFree) {files : MemoryFiles} {fixture : Fixture}
    {content : Octets} (h : files.get? fixture.id = some content) :
    c.verdict files.source fixture = .pass ↔ c.Fits fixture.name content := by
  obtain ⟨-, ⟨hpass, hfits⟩ | ⟨defect, hdue, hdictates⟩⟩ := verdict_spec hc h
  · exact iff_of_true hpass hfits
  · refine iff_of_false (fun hpass => ?_) hdictates.not_fits
    rw [hpass] at hdue
    cases hdue

def verdicts (c : Checker) (files : MemoryFiles) : List (Fixture × Verdict) :=
  files.list.fixtures.map fun fixture => (fixture, c.verdict files.source fixture)

def report (c : Checker) (files : MemoryFiles) : Report :=
  .ofVerdicts files.source.describe files.list.skipped.length (c.verdicts files)

theorem run_eq (c : Checker) (files : MemoryFiles) : c.run files.source = .ok (c.report files) :=
  rfl

variable {files : MemoryFiles}

theorem ids_verdicts (c : Checker) (files : MemoryFiles) :
    (c.verdicts files).map (·.1.id) = files.list.fixtures.map (·.id) := by
  rw [verdicts, List.map_map]
  rfl

theorem ids_verdicts_nodup (c : Checker) (hfiles : files.names.Nodup) :
    ((c.verdicts files).map (·.1.id)).Nodup := by
  rw [ids_verdicts, (MemoryFiles.ids_perm files).nodup_iff]
  exact hfiles.filter _

theorem verdicts_about (hc : c.CrashFree) :
    ∀ entry ∈ c.verdicts files, entry.2.About entry.1.id := by
  intro entry hentry
  obtain ⟨fixture, hfixture, rfl⟩ := List.mem_map.mp hentry
  have hname := ((MemoryFiles.mem_fixtures_iff files).mp hfixture).1
  obtain ⟨content, hcontent⟩ :=
    Option.isSome_iff_exists.mp ((NameTable.mem_names_iff files _).mp hname)
  exact (verdict_spec hc hcontent).1

theorem about_report (hc : c.CrashFree) (hfiles : files.names.Nodup) {fixture : Fixture}
    (hname : FixtureName.parse? fixture.id = some fixture.name)
    (hcontent : (files.get? fixture.id).isSome) :
    (c.report files).about fixture.id =
      ((c.verdict files.source fixture).due fixture).toList := by
  have hfixture := (MemoryFiles.mem_fixtures_iff files).mpr
    ⟨(NameTable.mem_names_iff files _).mpr hcontent, hname⟩
  exact Report.about_of_mem (c.ids_verdicts_nodup hfiles) (verdicts_about hc)
    (List.mem_map.mpr ⟨fixture, hfixture, rfl⟩)

theorem about_report_eq_nil (hc : c.CrashFree) {id : String}
    (h : FixtureName.parse? id = none ∨ files.get? id = none) : (c.report files).about id = [] := by
  refine Report.about_of_notMem (verdicts_about hc) ?_
  rw [ids_verdicts, List.mem_map]
  rintro ⟨fixture, hfixture, rfl⟩
  obtain ⟨hmem, hname⟩ := (MemoryFiles.mem_fixtures_iff files).mp hfixture
  rcases h with h | h
  · rw [h] at hname
    cases hname
  · rw [NameTable.mem_names_iff, h] at hmem
    cases hmem

theorem about_report_congr (hc : c.CrashFree) {others : MemoryFiles} (hfiles : files.names.Nodup)
    (hothers : others.names.Nodup) {id : String} (h : files.get? id = others.get? id) :
    (c.report files).about id = (c.report others).about id := by
  cases hname : FixtureName.parse? id with
  | none => rw [about_report_eq_nil hc (.inl hname), about_report_eq_nil hc (.inl hname)]
  | some name =>
    cases hcontent : files.get? id with
    | none =>
      rw [about_report_eq_nil hc (.inr hcontent), about_report_eq_nil hc (.inr (h ▸ hcontent))]
    | some content =>
      have hfixture : FixtureName.parse? (Fixture.mk id name).id = some name := hname
      have hheld : (files.get? (Fixture.mk id name).id).isSome := by rw [hcontent]; rfl
      rw [about_report hc hfiles hfixture hheld, about_report hc hothers hfixture (h ▸ hheld),
        c.verdict_congr h]

theorem isSuccess_report_iff (hc : c.CrashFree) :
    (c.report files).isSuccess = true ↔
      ∀ id name content, FixtureName.parse? id = some name → files.get? id = some content →
        c.Fits name content := by
  rw [report, Report.isSuccess_iff]
  constructor
  · intro hpass id name content hname hcontent
    have hmem : Fixture.mk id name ∈ files.list.fixtures := (MemoryFiles.mem_fixtures_iff files).mpr
      ⟨(NameTable.mem_names_iff files id).mpr (by rw [hcontent]; rfl), hname⟩
    exact (verdict_eq_pass_iff hc hcontent).mp (hpass _ (List.mem_map.mpr ⟨_, hmem, rfl⟩))
  · intro hfits entry hentry
    obtain ⟨fixture, hfixture, rfl⟩ := List.mem_map.mp hentry
    obtain ⟨hmem, hname⟩ := (MemoryFiles.mem_fixtures_iff files).mp hfixture
    obtain ⟨content, hcontent⟩ :=
      Option.isSome_iff_exists.mp ((NameTable.mem_names_iff files _).mp hmem)
    exact (verdict_eq_pass_iff hc hcontent).mpr (hfits _ _ _ hname hcontent)

theorem report_fixture (hc : c.CrashFree) (hfiles : files.names.Nodup) {id : String}
    {name : FixtureName} {content : Octets} (hname : FixtureName.parse? id = some name)
    (hcontent : files.get? id = some content) :
    (c.Fits name content → ∀ defect ∈ (c.report files).defects, id ∉ defect.fixtures) ∧
      (¬c.Fits name content → ∃ defect,
        (c.report files).defects.filter (fun defect => id ∈ defect.fixtures) = [defect] ∧
          c.Dictates ⟨id, name⟩ content defect) := by
  have hheld : files.get? (Fixture.mk id name).id = some content := hcontent
  have habout : (c.report files).about (Fixture.mk id name).id = _ :=
    about_report hc hfiles hname (by rw [hheld]; rfl)
  obtain ⟨-, ⟨hpass, hfits⟩ | ⟨defect, hdue, hdictates⟩⟩ := verdict_spec hc hheld
  · rw [hpass] at habout
    exact ⟨fun _ => (Report.about_eq_nil_iff _ _).mp habout, fun h => absurd hfits h⟩
  · rw [hdue] at habout
    obtain ⟨found, hfound, rfl⟩ := List.map_eq_singleton_iff.mp habout
    exact ⟨fun h => absurd h hdictates.not_fits,
      fun _ => ⟨found, hfound, (dictates_only_iff id).mp hdictates⟩⟩

end Checker

open MemoryFiles (ofList) in
/-- The report of a run over any files in memory, against any types that do not crash, is exact.
Every file is discovered or skipped. The run succeeds exactly if every fixture is as its name says.
Each fixture that is not is in exactly one defect, of the kind that its case dictates, and each that
is in none. What is said of a file depends on its name and content, not on other files. -/
theorem run_report_exact (c : Checker) (hc : c.CrashFree) (named : List (String × Octets)) :
    ∃ report, c.run (ofList named).source = .ok report ∧
      report.discovered =
        (ofList named).names.countP (fun id => (FixtureName.parse? id).isSome) ∧
      report.discovered + report.skipped = (ofList named).size ∧
      (report.isSuccess = true ↔ ∀ id name content, FixtureName.parse? id = some name →
        (ofList named).get? id = some content → c.Fits name content) ∧
      (∀ id name content, FixtureName.parse? id = some name →
        (ofList named).get? id = some content →
          (c.Fits name content → ∀ defect ∈ report.defects, id ∉ defect.fixtures) ∧
          (¬c.Fits name content → ∃ defect,
            report.defects.filter (fun defect => id ∈ defect.fixtures) = [defect] ∧
              c.Dictates ⟨id, name⟩ content defect)) ∧
      (∀ id, FixtureName.parse? id = none ∨ (ofList named).get? id = none →
        ∀ defect ∈ report.defects, id ∉ defect.fixtures) ∧
      ∀ (others : List (String × Octets)) (other : Report),
        c.run (ofList others).source = .ok other → ∀ id,
          (ofList named).get? id = (ofList others).get? id → report.about id = other.about id := by
  have hfiles := MemoryFiles.names_nodup named
  refine ⟨c.report (ofList named), c.run_eq _, ?_, ?_, Checker.isSuccess_report_iff hc,
    ?_, ?_, ?_⟩
  · exact (List.length_map _).trans (MemoryFiles.length_fixtures _)
  · rw [← MemoryFiles.length_fixtures_add_length_skipped]
    exact congrArg (· + _) (List.length_map _)
  · exact fun id name content hname hcontent => Checker.report_fixture hc hfiles hname hcontent
  · exact fun id h => (Report.about_eq_nil_iff _ _).mp (Checker.about_report_eq_nil hc h)
  · intro others other hother id h
    cases hother
    exact Checker.about_report_congr hc hfiles (MemoryFiles.names_nodup others) h

theorem run_report_exact_messageType :
    (Checker.mk TypeRegistry.protocol .initial).CrashFree ∧
    ∃ report, (Checker.mk TypeRegistry.protocol .initial).run (MemoryFiles.ofList
        [("MessageType-True-a.json", [49]), ("MessageType-False-a.json", [49]),
          ("notes.txt", [])]).source = .ok report ∧
      report.discovered = 2 ∧ report.skipped = 1 ∧ report.isSuccess = false ∧
      (∀ defect ∈ report.defects, "MessageType-True-a.json" ∉ defect.fixtures) ∧
      report.defects.filter (fun defect => "MessageType-False-a.json" ∈ defect.fixtures) =
        [.unexpectedSuccess "MessageType" "MessageType-False-a.json"] := by
  have hfree := Checker.crashFree_protocol .initial
  obtain ⟨report, hrun, hdiscovered, hsum, hsuccess, hfixture, -, -⟩ :=
    run_report_exact ⟨TypeRegistry.protocol, .initial⟩ hfree
      [("MessageType-True-a.json", [49]), ("MessageType-False-a.json", [49]), ("notes.txt", [])]
  have hkind : TypeRegistry.protocol.get? "MessageType" =
      some (WireType.plain (.integerEnum Protocol.messageType)).binding :=
    TypeRegistry.get?_of_getElem? (i := 59) rfl
  obtain ⟨i, hi, hencode⟩ : ∃ i, (Schema.integerEnum Protocol.messageType).codec.decodeText [49]
      .strict = .ok i ∧ (Schema.integerEnum Protocol.messageType).codec.encode i =
        .ok (.number (.integer 1)) := ⟨⟨0, by decide⟩, rfl, rfl⟩
  have hfits : (Checker.mk TypeRegistry.protocol .initial).Fits
      ⟨"MessageType", .accept, "a"⟩ [49] := by
    refine ⟨_, hkind, iff_of_true ⟨i, hi⟩ rfl, fun _ _ x hx => ?_⟩
    cases hi.symm.trans hx
    exact ⟨_, i, _, hencode, hi, hencode, rfl⟩
  have hnot : ¬(Checker.mk TypeRegistry.protocol .initial).Fits
      ⟨"MessageType", .reject, "a"⟩ [49] := by
    rintro ⟨b, hb, hread, -⟩
    cases hkind.symm.trans hb
    cases hread.mp ⟨i, hi⟩
  obtain ⟨defect, hfilter, hdictates⟩ := (hfixture "MessageType-False-a.json"
    ⟨"MessageType", .reject, "a"⟩ [49] (by decide +kernel) (by decide +kernel)).2 hnot
  have hdiscovered : report.discovered = 2 := hdiscovered.trans (by decide +kernel)
  have hskipped : report.skipped = 1 := by
    have hsize : report.discovered + report.skipped = 3 := hsum.trans (by decide +kernel)
    omega
  refine ⟨hfree, report, hrun, hdiscovered, hskipped, ?_, ?_, ?_⟩
  · rw [Bool.eq_false_iff]
    exact fun hpass => hnot (hsuccess.mp hpass "MessageType-False-a.json" _ _
      (by decide +kernel) (by decide +kernel))
  · exact (hfixture "MessageType-True-a.json" ⟨"MessageType", .accept, "a"⟩ [49]
      (by decide +kernel) (by decide +kernel)).1 hfits
  · rw [hfilter]
    cases defect with
    | unexpectedSuccess typeName id =>
      obtain ⟨rfl, rfl, -⟩ := hdictates
      rfl
    | unknownType typeName ids =>
      obtain ⟨rfl, hnone⟩ := hdictates
      cases hkind.symm.trans hnone
    | unexpectedFailure typeName id e =>
      obtain ⟨-, -, haccept, -⟩ := hdictates
      cases haccept
    | roundTripMismatch typeName id detail =>
      obtain ⟨-, -, haccept, -⟩ := hdictates
      cases haccept
    | unreadable => exact hdictates.elim
    | panicked => exact hdictates.elim

end LspWire
