import LspWire.Proofs.FilePath
import Mathlib.Data.List.Perm.Basic

/-! Fixtures read from the files they were listed for.
A fixture is listed for a file by the name of the file and read by its own, which is the path of the
file with backslashes made slashes. Where a path has none of these it can be told from the name
again; so files with such paths have different names, and each is read where it stands. -/

namespace LspWire

namespace FixtureDirectory

open FileTree (LegalPath pathsIn)

variable {d : FixtureDirectory} {patterns : List (List Glob.Token)} {path : List String}
  {fixture : Fixture} {entries : List (String × FileTree)} {place : Place}

/-- The fixture that a file is listed as. -/
def fixture? (patterns : List (List Glob.Token)) (path : List String) : Option Fixture :=
  if patterns.any fun pattern => Glob.fits pattern (path.getLastD "").toList then
    (FixtureName.parse? (path.getLastD "")).map (Fixture.mk (id path))
  else none

theorem fixture?_eq_some (h : fixture? patterns path = some fixture) :
    FixtureName.parse? (path.getLastD "") = some fixture.name ∧ fixture.id = id path := by
  rw [fixture?] at h
  split at h
  · obtain ⟨name, hname, rfl⟩ := Option.map_eq_some_iff.mp h
    exact ⟨hname, rfl⟩
  · cases h

theorem fixtures_add (patterns : List (List Glob.Token)) (listing : Listing)
    (path : List String) :
    (add patterns listing path).fixtures =
      listing.fixtures ++ (fixture? patterns path).toList := by
  rw [add, fixture?]
  split
  · rw [Listing.add]
    cases FixtureName.parse? (path.getLastD "") <;> simp
  · simp

theorem fixtures_foldl_add (paths : List (List String)) (listing : Listing) :
    (paths.foldl (add patterns) listing).fixtures =
      listing.fixtures ++ paths.filterMap (fixture? patterns) := by
  induction paths generalizing listing with
  | nil => simp
  | cons path rest ih =>
    rw [List.foldl_cons, ih, fixtures_add, List.filterMap_cons]
    cases fixture? patterns path <;> simp

theorem exists_listing (hplace : d.place = some place) (hentry : place.entry = .directory entries)
    (hpatterns : d.compiled = .ok patterns) (hroot : pathFault? d.root = none) :
    ∃ listing, d.list = .ok listing ∧
      listing.fixtures.Perm ((pathsIn d.recursive entries).filterMap (fixture? patterns)) := by
  refine ⟨((pathsIn d.recursive entries).foldl (add patterns) .empty).sorted, ?_, ?_⟩
  · rw [list, hpatterns, hroot, hplace, Option.map_some, hentry]
    rfl
  · refine (List.mergeSort_perm _ _).trans ?_
    rw [fixtures_foldl_add, Listing.empty, List.nil_append]

theorem parts_id (hpath : LegalPath path) (hplain : plain path = true) :
    FileTree.parts (id path) = path := by
  rw [id_of_plain hplain]
  exact FileTree.parts_intercalate hpath

theorem ids_nodup (hlegal : (FileTree.directory entries).legal = true) {deep : Bool}
    (hplain : ∀ path ∈ pathsIn deep entries, (fixture? patterns path).isSome = true →
      plain path = true) :
    (((pathsIn deep entries).filterMap (fixture? patterns)).map (·.id)).Nodup := by
  have hnodup : (pathsIn deep entries).Nodup := by
    rw [FileTree.legal, Bool.and_eq_true, decide_eq_true_eq] at hlegal
    exact FileTree.pathsIn_nodup entries hlegal.2 hlegal.1
  refine List.pairwise_map.mpr (List.pairwise_filterMap.mpr (hnodup.imp_of_mem ?_))
  intro path other hpath hother hne fixture hfixture found hfound hid
  apply hne
  have hpathplain := hplain path hpath (Option.isSome_iff_exists.mpr ⟨fixture, hfixture⟩)
  have hotherplain := hplain other hother (Option.isSome_iff_exists.mpr ⟨found, hfound⟩)
  rw [(fixture?_eq_some hfixture).2, (fixture?_eq_some hfound).2] at hid
  rw [← parts_id (FileTree.pathsIn_spec hlegal hpath).1 hpathplain, hid,
    parts_id (FileTree.pathsIn_spec hlegal hother).1 hotherplain]

theorem read_of_find? {content : Text.Octets} (hplace : d.place = some place)
    (hroot : pathFault? d.root = none) (hpath : LegalPath path) (hplain : plain path = true)
    (hfind : place.entry.find? path = some (.file content))
    (hshort : (joinPath d.root (id path)).utf8ByteSize < pathLimit) (hid : fixture.id = id path) :
    d.read fixture = .ok content := by
  rw [id_of_plain hplain] at hshort hid
  have hfault : pathFault? (joinPath d.root ("/".intercalate path)) = none := by
    refine pathFault?_eq_none_iff.mpr ⟨?_, hshort⟩
    apply notMem_joinPath (by decide) (pathFault?_eq_none_iff.mp hroot).1
    exact notMem_intercalate (by decide) fun name hname => (hpath.notMem name hname).2
  obtain ⟨above, hfollow⟩ := Place.follow_intercalate hpath hfind
  rw [read, hid, hfault, hplace]
  dsimp only
  rw [hfollow]
  rfl

/-- A directory with legal names lists the files below it by their names. Each of them whose path
has no backslashes, and is not too long to lead anywhere, is read where it stands; and if no path
has backslashes the files listed differ in their names. -/
theorem listed_file_read (hplace : d.place = some place)
    (hentry : place.entry = .directory entries) (hlegal : place.entry.legal = true)
    (hpatterns : d.compiled = .ok patterns) (hroot : pathFault? d.root = none) :
    ∃ listing, d.list = .ok listing ∧
      listing.fixtures.Perm ((pathsIn d.recursive entries).filterMap (fixture? patterns)) ∧
      (∀ path ∈ pathsIn d.recursive entries, ∀ fixture, fixture? patterns path = some fixture →
        ∃ content, place.entry.find? path = some (.file content) ∧
          FixtureName.parse? (path.getLastD "") = some fixture.name ∧
          (plain path = true → (joinPath d.root (id path)).utf8ByteSize < pathLimit →
            d.read fixture = .ok content)) ∧
      ((∀ path ∈ pathsIn d.recursive entries, (fixture? patterns path).isSome = true →
        plain path = true) → (listing.fixtures.map (·.id)).Nodup) := by
  obtain ⟨listing, hlist, hperm⟩ := exists_listing hplace hentry hpatterns hroot
  rw [hentry] at hlegal
  refine ⟨listing, hlist, hperm, ?_, ?_⟩
  · intro path hmem fixture hfixture
    obtain ⟨hpath, content, hfind⟩ := FileTree.pathsIn_spec hlegal hmem
    obtain ⟨hname, hid⟩ := fixture?_eq_some hfixture
    rw [← hentry] at hfind
    refine ⟨content, hfind, hname, fun hplain hshort => ?_⟩
    exact read_of_find? hplace hroot hpath hplain hfind hshort hid
  · intro hplain
    exact (hperm.map _).nodup_iff.mpr (ids_nodup hlegal hplain)

def anyJson : List Glob.Token :=
  [.anyRun, .char '.', .char 'j', .char 's', .char 'o', .char 'n']

theorem compiled_anyJson (root : String) (place : Option Place) (deep : Bool) :
    compiled ⟨root, place, deep, ["*.json"]⟩ = .ok [anyJson] := by
  cbv

theorem listed_file_read_nested :
    let entries := [("nested", FileTree.directory [("Range-False-2.json", .file [49])])]
    let d : FixtureDirectory := ⟨"fixtures", some (.top (.directory entries)), true, ["*.json"]⟩
    let fixture : Fixture := ⟨"nested/Range-False-2.json", ⟨"Range", .reject, "2"⟩⟩
    (FileTree.directory entries).legal = true ∧
      ∃ listing, d.list = .ok listing ∧ listing.fixtures = [fixture] ∧
        (listing.fixtures.map (·.id)).Nodup ∧ d.read fixture = .ok [49] := by
  intro entries d fixture
  have hlegal : (FileTree.directory entries).legal = true := by decide +kernel
  have hplace : d.place = some (.top (.directory entries)) := rfl
  have hlisted : (pathsIn true entries).filterMap (fixture? [anyJson]) = [fixture] := by
    decide +kernel
  obtain ⟨listing, hlist, hperm, hread, hnodup⟩ := listed_file_read hplace rfl hlegal
    (compiled_anyJson _ _ _) (by decide +kernel)
  have hplain : ∀ path ∈ pathsIn true entries, plain path = true := by decide +kernel
  obtain ⟨content, hfind, -, hcontent⟩ := hread ["nested", "Range-False-2.json"]
    (by decide +kernel) fixture (by decide +kernel)
  cases hfind
  refine ⟨hlegal, listing, hlist, ?_, hnodup fun path hpath _ => hplain path hpath,
    hcontent (by decide +kernel) (by decide +kernel)⟩
  rw [hlisted] at hperm
  exact List.perm_singleton.mp hperm

/-- With a backslash in its name a file may be listed under the path of another, and is then read
from there. -/
theorem backslash_misread :
    let name := "Position-True-a\\Position-True-b.json"
    let entries := [(name, FileTree.file [1]),
      ("Position-True-a", .directory [("Position-True-b.json", .file [2])])]
    let d : FixtureDirectory := ⟨"fixtures", some (.top (.directory entries)), true, ["*.json"]⟩
    (FileTree.directory entries).legal = true ∧
      (FileTree.directory entries).find? [name] = some (.file [1]) ∧
      ∃ listing, d.list = .ok listing ∧ ¬(listing.fixtures.map (·.id)).Nodup ∧
        ∃ fixture ∈ listing.fixtures, FixtureName.parse? name = some fixture.name ∧
          d.read fixture = .ok [2] := by
  intro name entries d
  let other := ["Position-True-a", "Position-True-b.json"]
  have hplace : d.place = some (.top (.directory entries)) := rfl
  have hlisted : (pathsIn true entries).filterMap (fixture? [anyJson]) =
      [⟨id other, ⟨"Position", .accept, "a\\Position-True-b"⟩⟩,
        ⟨id other, ⟨"Position", .accept, "b"⟩⟩] := by
    decide +kernel
  have hroot : pathFault? d.root = none := by decide +kernel
  obtain ⟨listing, hlist, hperm⟩ := exists_listing hplace rfl (compiled_anyJson _ _ _) hroot
  rw [hlisted] at hperm
  refine ⟨by decide +kernel, rfl, listing, hlist, fun hnodup => ?_, _,
    hperm.mem_iff.mpr List.mem_cons_self, by decide +kernel, ?_⟩
  · have hsame : [id other, id other].Nodup := (hperm.map _).nodup_iff.mp hnodup
    simp at hsame
  · have hother : LegalPath other := ⟨List.cons_ne_nil _ _, by decide +kernel⟩
    exact read_of_find? hplace hroot hother (by decide +kernel) rfl (by decide +kernel) rfl

end FixtureDirectory

end LspWire
