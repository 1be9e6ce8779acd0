import LspWire.Fixture.Directory
import Mathlib.Data.List.Nodup

/-! Files by their paths.
In a directory whose names are legal, each entry under a name of its own, the paths of its files
differ and each leads to its file. Joined by slashes and followed part by part, a path leads to the
same place. -/

namespace LspWire

namespace FileTree

variable {deep : Bool} {entries : List (String × FileTree)} {path : List String}
  {name : String} {entry : FileTree}

def legalName (name : String) : Bool :=
  name != "" && name != "." && name != ".." && decide (name.utf8ByteSize ≤ Place.maxName) &&
    !name.toList.contains '/' && !name.toList.contains '\x00'

mutual

/-- The entries of every directory have legal names, no two of them the same. -/
def legal : FileTree → Bool
  | .file _ => true
  | .directory entries => decide (entries.map (·.1)).Nodup && legalIn entries

def legalIn : List (String × FileTree) → Bool
  | [] => true
  | (name, entry) :: rest => legalName name && entry.legal && legalIn rest

end

theorem legal_of_mem (h : legalIn entries = true) (hmem : (name, entry) ∈ entries) :
    legalName name = true ∧ entry.legal = true := by
  induction entries with
  | nil => cases hmem
  | cons head rest ih =>
    simp only [legalIn, Bool.and_eq_true] at h
    rcases List.mem_cons.mp hmem with heq | hmem
    · cases heq
      exact h.1
    · exact ih h.2 hmem

theorem notMem_of_legalName (h : legalName name = true) :
    '/' ∉ name.toList ∧ '\x00' ∉ name.toList := by
  simp [legalName] at h
  exact ⟨h.1.2, h.2⟩

/-- A path that leads from a directory to something in it, by legal names. -/
structure LegalPath (path : List String) : Prop where
  nonempty : path ≠ []
  names : ∀ name ∈ path, legalName name = true

theorem LegalPath.notMem (h : LegalPath path) :
    ∀ name ∈ path, '/' ∉ name.toList ∧ '\x00' ∉ name.toList :=
  fun name hname => notMem_of_legalName (h.names name hname)

theorem child?_of_mem (hnodup : (entries.map (·.1)).Nodup) (hmem : (name, entry) ∈ entries) :
    child? name entries = some entry := by
  induction entries with
  | nil => cases hmem
  | cons head rest ih =>
    obtain ⟨other, held⟩ := head
    rw [List.map_cons, List.nodup_cons] at hnodup
    rw [child?]
    rcases List.mem_cons.mp hmem with heq | hmem
    · cases heq
      rw [if_pos rfl]
    · have hname : name ∈ rest.map (·.1) := List.mem_map_of_mem hmem
      rw [if_neg fun heq : other = name => hnodup.1 (heq ▸ hname)]
      exact ih hnodup.2 hmem

def find? : FileTree → List String → Option FileTree
  | tree, [] => some tree
  | .directory entries, name :: rest => (child? name entries).bind fun entry => entry.find? rest
  | .file _, _ :: _ => none

theorem mem_pathsIn_iff : path ∈ pathsIn deep entries ↔
    ∃ name entry rest, (name, entry) ∈ entries ∧ hidden name = false ∧ rest ∈ entry.paths deep ∧
      path = name :: rest := by
  induction entries with
  | nil => simp [pathsIn]
  | cons head others ih =>
    obtain ⟨name, entry⟩ := head
    rw [pathsIn, List.mem_append]
    constructor
    · rintro (h | h)
      · split at h
        · cases h
        · next hhidden =>
          obtain ⟨rest, hrest, rfl⟩ := List.mem_map.mp h
          exact ⟨name, entry, rest, List.mem_cons_self, by simpa using hhidden, hrest, rfl⟩
      · obtain ⟨other, held, rest, hmem, h⟩ := ih.mp h
        exact ⟨other, held, rest, List.mem_cons_of_mem _ hmem, h⟩
    · rintro ⟨other, held, rest, hmem, hhidden, hrest, rfl⟩
      rcases List.mem_cons.mp hmem with heq | hmem
      · cases heq
        rw [hhidden]
        exact .inl (List.mem_map_of_mem hrest)
      · exact .inr (ih.mpr ⟨other, held, rest, hmem, hhidden, hrest, rfl⟩)

theorem pathsIn_spec (hlegal : (directory entries).legal = true) (h : path ∈ pathsIn deep entries) :
    LegalPath path ∧ ∃ content, (directory entries).find? path = some (.file content) := by
  induction path generalizing entries with
  | nil =>
    obtain ⟨_, _, _, -, -, -, heq⟩ := mem_pathsIn_iff.mp h
    cases heq
  | cons name rest ih =>
    obtain ⟨_, entry, _, hmem, -, hrest, heq⟩ := mem_pathsIn_iff.mp h
    cases heq
    rw [legal, Bool.and_eq_true, decide_eq_true_eq] at hlegal
    obtain ⟨hname, hentry⟩ := legal_of_mem hlegal.2 hmem
    rw [find?, child?_of_mem hlegal.1 hmem, Option.bind_some]
    cases entry with
    | file content =>
      rw [paths, List.mem_singleton] at hrest
      subst hrest
      exact ⟨⟨List.cons_ne_nil _ _, List.forall_mem_singleton.mpr hname⟩, content, rfl⟩
    | directory inner =>
      rw [paths] at hrest
      split at hrest
      · obtain ⟨hpath, hfind⟩ := ih hentry hrest
        exact ⟨⟨List.cons_ne_nil _ _, List.forall_mem_cons.mpr ⟨hname, hpath.names⟩⟩, hfind⟩
      · cases hrest

mutual

theorem paths_nodup : ∀ tree : FileTree, tree.legal = true → (tree.paths deep).Nodup
  | .file _, _ => List.nodup_singleton []
  | .directory entries, h => by
    rw [legal, Bool.and_eq_true, decide_eq_true_eq] at h
    rw [paths]
    split
    · exact pathsIn_nodup entries h.2 h.1
    · exact List.nodup_nil

theorem pathsIn_nodup : ∀ entries : List (String × FileTree), legalIn entries = true →
    (entries.map (·.1)).Nodup → (pathsIn deep entries).Nodup
  | [], _, _ => List.nodup_nil
  | (name, entry) :: rest, h, hnodup => by
    simp only [legalIn, Bool.and_eq_true] at h
    rw [List.map_cons, List.nodup_cons] at hnodup
    rw [pathsIn]
    refine List.Nodup.append ?_ (pathsIn_nodup rest h.2 hnodup.2) ?_
    · split
      · exact List.nodup_nil
      · exact (paths_nodup entry h.1.2).map fun _ _ heq => (List.cons.inj heq).2
    -- Paths through the other entries start with other names.
    · intro path hpath hother
      obtain ⟨other, held, _, hmem, -, -, rfl⟩ := mem_pathsIn_iff.mp hother
      have hname : other ∈ rest.map (·.1) := List.mem_map_of_mem hmem
      split at hpath
      · cases hpath
      · obtain ⟨_, -, heq⟩ := List.mem_map.mp hpath
        cases heq
        exact hnodup.1 hname

end

theorem parts_intercalate (h : LegalPath path) : parts ("/".intercalate path) = path := by
  have hslash : "/".toList = ['/'] := rfl
  have hnotMem : ∀ name ∈ path, '/' ∉ name.toList := fun name hname => (h.notMem name hname).1
  rw [parts, String.toList_intercalate, hslash, List.splitOn_intercalate]
  · simp
  · simpa using hnotMem
  · simpa using h.nonempty

end FileTree

theorem isAbsolute_eq_false {path : String} (h : (FileTree.parts path).head? ≠ some "") :
    isAbsolute path = false := by
  rw [isAbsolute]
  cases hpath : path.toList with
  | nil => rfl
  | cons c rest =>
    rw [FileTree.parts, hpath] at h
    rw [List.head?_cons, beq_eq_false_iff_ne]
    intro heq
    cases heq
    apply h
    simp [List.splitOn_cons_eq_if_modifyHead]

namespace Place

open FileTree (LegalPath legalName)

variable {path : List String} {place : Place} {entry : FileTree}

theorem foldlM_step (hlegal : ∀ name ∈ path, legalName name = true)
    (h : place.entry.find? path = some entry) :
    ∃ above, path.foldlM step place = .ok ⟨entry, above⟩ := by
  induction path generalizing place with
  | nil =>
    cases h
    exact ⟨place.above, rfl⟩
  | cons name rest ih =>
    rw [List.forall_mem_cons] at hlegal
    obtain ⟨tree, above⟩ := place
    cases tree with
    | file => cases h
    | directory entries =>
      obtain ⟨next, hnext, hrest⟩ := Option.bind_eq_some_iff.mp h
      have hstep : step ⟨.directory entries, above⟩ name =
          .ok ⟨next, .directory entries :: above⟩ := by
        have hname := hlegal.1
        simp [legalName] at hname
        simp [step, hname, hnext]
      rw [List.foldlM_cons, hstep]
      exact ih hlegal.2 hrest

theorem follow_intercalate (hpath : LegalPath path) (h : place.entry.find? path = some entry) :
    ∃ above, place.follow ("/".intercalate path) = .ok ⟨entry, above⟩ := by
  have hparts := FileTree.parts_intercalate hpath
  have habsolute : isAbsolute ("/".intercalate path) = false := by
    apply isAbsolute_eq_false
    rw [hparts]
    intro hhead
    have hempty := hpath.names "" (List.mem_of_head? hhead)
    cases hempty
  rw [follow, hparts, habsolute]
  exact foldlM_step hpath.names h

end Place

theorem notMem_intercalate {c : Char} (hc : c ≠ '/') {names : List String}
    (h : ∀ name ∈ names, c ∉ name.toList) : c ∉ ("/".intercalate names).toList := by
  have hslash : "/".toList = ['/'] := rfl
  rw [String.toList_intercalate, hslash]
  induction names with
  | nil => simp
  | cons name rest ih =>
    rw [List.forall_mem_cons] at h
    cases rest with
    | nil => simpa using h.1
    | cons next others =>
      rw [List.map_cons, List.map_cons, List.intercalate_cons_cons, ← List.map_cons]
      simp only [List.mem_append, List.mem_singleton, h.1, hc, ih h.2, or_self, not_false_eq_true]

theorem notMem_joinPath {c : Char} (hc : c ≠ '/') {root path : String} (hroot : c ∉ root.toList)
    (hpath : c ∉ path.toList) : c ∉ (joinPath root path).toList := by
  have hslash : "/".toList = ['/'] := rfl
  rw [joinPath]
  split
  · exact hpath
  · split <;> simp [hslash, hroot, hpath, hc]

theorem pathFault?_eq_none_iff {path : String} :
    pathFault? path = none ↔ '\x00' ∉ path.toList ∧ path.utf8ByteSize < pathLimit := by
  rw [pathFault?]
  split
  · next h => simp [List.contains_iff_mem.mp h]
  · next h =>
    rw [List.contains_iff_mem] at h
    split
    · simp [Nat.not_lt.mpr ‹_›]
    · simp [h, Nat.lt_of_not_le ‹_›]

namespace FixtureDirectory

def plain (path : List String) : Bool := path.all fun name => !name.toList.contains '\\'

theorem id_of_plain {path : List String} (h : plain path = true) :
    id path = "/".intercalate path := by
  have hnotMem : '\\' ∉ ("/".intercalate path).toList :=
    notMem_intercalate (by decide) (by simpa [plain] using h)
  have hsame : ∀ c ∈ ("/".intercalate path).toList, (if c = '\\' then '/' else c) = c := by
    intro c hc
    rw [if_neg fun heq : c = '\\' => hnotMem (heq ▸ hc)]
  rw [id, List.map_congr_left hsame, List.map_id', String.ofList_toList]

end FixtureDirectory

end LspWire
