import LspWire.Config.Load
import LspWire.Proofs.ExceptStep
import LspWire.Proofs.LayeredSetting
import LspWire.Proofs.SettingsDocument

/-! Settings by precedence.
A section is read setting by setting from what its table holds under each key, so that a run takes
of every setting what the topmost layer says of it, and its type decides alone whether the run can
start. -/

namespace LspWire

namespace Members

/-- What members hold under some keys, in the order of the keys. -/
def pick (keys : List String) (members : Members) : Members :=
  keys.filterMap fun key => (members.get? key).map (key, ·)

@[simp] theorem pick_nil (members : Members) : members.pick [] = [] := rfl

theorem pick_cons (key : String) (keys : List String) (members : Members) :
    members.pick (key :: keys) =
      ((members.get? key).map (key, ·)).toList ++ members.pick keys := by
  rw [pick, List.filterMap_cons]
  cases members.get? key <;> rfl

theorem get?_pick {keys : List String} (members : Members) (name : String) :
    (members.pick keys).get? name = if name ∈ keys then members.get? name else none := by
  induction keys with
  | nil => rfl
  | cons key rest ih =>
    rw [pick_cons, get?_append, ih]
    by_cases h : key = name
    · subst h
      cases members.get? key <;> simp [get?_cons]
    · cases members.get? key <;> simp [get?_cons, h, Ne.symm h]

theorem ascending_pick {keys : List String} (h : keys.Pairwise (· < ·)) (members : Members) :
    Ascending (members.pick keys) := by
  refine List.pairwise_filterMap.mpr (h.imp fun hlt entry hentry other hother => ?_)
  obtain ⟨_, -, rfl⟩ := Option.map_eq_some_iff.mp hentry
  obtain ⟨_, -, rfl⟩ := Option.map_eq_some_iff.mp hother
  exact hlt

theorem get?_filter (keys : List String) (members : Members) (name : String) :
    Members.get? (members.filter (·.1 ∈ keys)) name =
      if name ∈ keys then members.get? name else none := by
  induction members with
  | nil => simp
  | cons member rest ih =>
    obtain ⟨other, value⟩ := member
    by_cases hother : other ∈ keys <;> by_cases h : other = name <;>
      simp_all [get?_cons]

theorem filter_eq_pick {keys : List String} (hkeys : keys.Pairwise (· < ·)) {members : Members}
    (h : Ascending members) : members.filter (·.1 ∈ keys) = members.pick keys :=
  eq_of_get?_eq (h.filter _) (ascending_pick hkeys members) fun name =>
    (get?_filter keys members name).trans (get?_pick members name).symm

end Members

namespace Config

theorem setMembers_filter {σ : Type} {settings : List (Setting σ)} {keys : List String}
    (h : ∀ setting ∈ settings, setting.key ∈ keys) (held : σ) (members : Members) :
    setMembers settings held (members.filter (·.1 ∈ keys)) = setMembers settings held members := by
  induction members generalizing held with
  | nil => rfl
  | cons member rest ih =>
    obtain ⟨name, value⟩ := member
    by_cases hname : name ∈ keys
    · rw [List.filter_cons_of_pos (by simpa), setMembers, setMembers]
      cases settings.find? fun setting => setting.key == name with
      | none => exact ih held
      | some setting => exact congrArg _ (funext fun held => ih held)
    · rw [List.filter_cons_of_neg (by simpa), ih, setMembers]
      have hnone : (settings.find? fun setting => setting.key == name) = none := by
        rw [List.find?_eq_none]
        intro setting hsetting heq
        exact hname (beq_iff_eq.mp heq ▸ h setting hsetting)
      rw [hnone]

theorem setMembers_eq_pick {σ : Type} {settings : List (Setting σ)} {keys : List String}
    (hkeys : keys.Pairwise (· < ·)) (h : ∀ setting ∈ settings, setting.key ∈ keys)
    {members : Members} (hmembers : Ascending members) (held : σ) :
    setMembers settings held members = setMembers settings held (members.pick keys) := by
  rw [← setMembers_filter h, Members.filter_eq_pick hkeys hmembers]

def readOr {α : Type} (read : Json → Except ConfigFault α) (initial : α) :
    Option Json → Except ConfigFault α
  | none => .ok initial
  | some value => read value

theorem read_fixtureSettings {table : Members} (h : Ascending table) (held : FixtureSettings) :
    setMembers fixtureSettings held table = (do
      let dir ← readOr (readString "path string") held.dir (table.get? "dir")
      let patterns ← readOr readStrings held.patterns (table.get? "include")
      let recursive ← readOr readBool held.recursive (table.get? "recursive")
      .ok ⟨dir, recursive, patterns⟩) := by
  have hkeys : ["dir", "include", "recursive"].Pairwise (· < ·) := by decide
  rw [setMembers_eq_pick hkeys (by decide) h]
  simp only [Members.pick_cons, Members.pick_nil]
  cases table.get? "dir" <;> cases table.get? "include" <;> cases table.get? "recursive" <;>
    simp [setMembers, fixtureSettings, readOr, ok_bind]

theorem read_decodeSettings {table : Members} (h : Ascending table) (held : DecodeSettings) :
    setMembers decodeSettings held table = (do
      let rejectUnknownFields ←
        readOr readBool held.rejectUnknownFields (table.get? "reject_unknown_fields")
      .ok ⟨rejectUnknownFields⟩) := by
  have hkeys : ["reject_unknown_fields"].Pairwise (· < ·) := by decide
  rw [setMembers_eq_pick hkeys (by decide) h]
  simp only [Members.pick_cons, Members.pick_nil]
  cases table.get? "reject_unknown_fields" <;> simp [setMembers, decodeSettings, readOr, ok_bind]

theorem read_runSettings {table : Members} (h : Ascending table) (held : RunSettings) :
    setMembers runSettings held table = (do
      let parallelism ← readOr readCount held.parallelism (table.get? "parallelism")
      let roundTrip ← readOr readBool held.roundTrip (table.get? "round_trip")
      .ok ⟨parallelism, roundTrip⟩) := by
  have hkeys : ["parallelism", "round_trip"].Pairwise (· < ·) := by decide
  rw [setMembers_eq_pick hkeys (by decide) h]
  simp only [Members.pick_cons, Members.pick_nil]
  cases table.get? "parallelism" <;> cases table.get? "round_trip" <;>
    simp [setMembers, runSettings, readOr, ok_bind]

theorem ofJson_tables {members decode fixtures run : Members} (h : Ascending members)
    (hdecode : members.get? "decode" = some (.object decode))
    (hfixtures : members.get? "fixtures" = some (.object fixtures))
    (hrun : members.get? "harness" = some (.object run)) :
    ofJson (.object members) = (do
      let decode ← setMembers decodeSettings .initial decode
      let fixtures ← setMembers fixtureSettings .initial fixtures
      let run ← setMembers runSettings .initial run
      .ok ⟨fixtures, decode, run⟩) := by
  have hkeys : ["decode", "fixtures", "harness"].Pairwise (· < ·) := by decide
  rw [ofJson, readSection, setMembers_eq_pick hkeys (by decide) h]
  simp only [Members.pick_cons, Members.pick_nil, hdecode, hfixtures, hrun]
  simp [setMembers, sections, readSection]

inductive ValueType where
  | text
  | flag
  | texts
  | count

def ValueType.Admits : ValueType → Json → Prop
  | text, value => ∃ s, value = .string s
  | flag, value => ∃ b, value = .bool b
  | texts, value => ∃ items : List String, value = .array (items.map .string)
  | count, value => ∃ n : Nat, value = .number (.integer n)

theorem readString_eq_ok_iff {expected : String} {value : Json} {s : String} :
    readString expected value = .ok s ↔ value = .string s := by
  cases value <;> simp [readString]

theorem readBool_eq_ok_iff {value : Json} {b : Bool} :
    readBool value = .ok b ↔ value = .bool b := by
  cases value <;> simp [readBool]

theorem readStrings_eq_ok_iff {value : Json} {texts : List String} :
    readStrings value = .ok texts ↔ value = .array (texts.map .string) := by
  have hitems (items : List Json) (texts : List String) :
      items.mapM (readString "a string") = .ok texts ↔ items = texts.map .string := by
    induction items generalizing texts with
    | nil => cases texts <;> simp [pure, Except.pure]
    | cons item rest ih =>
      rw [List.mapM_cons, bind_eq_ok_iff]
      simp only [bind_eq_ok_iff, readString_eq_ok_iff, ih]
      cases texts <;> simp [pure, Except.pure]
  cases value <;> simp [readStrings, hitems]

theorem readCount_eq_ok_iff {value : Json} {count : Option Nat} :
    readCount value = .ok count ↔
      (value = .null ∧ count = none) ∨
        ∃ n : Nat, value = .number (.integer n) ∧ count = some n := by
  unfold readCount
  split
  · rw [Except.ok.injEq, eq_comm]
    simp
  · rw [Except.ok.injEq, eq_comm]
    simp only [reduceCtorEq, false_and, false_or, Json.number.injEq, Number.integer.injEq,
      Int.ofNat_eq_natCast, Int.natCast_inj]
    simp
  · next n hneg =>
    cases n with
    | ofNat n => exact absurd rfl (hneg n)
    | negSucc n => simp
  · next hnull hnat hint =>
    simp only [reduceCtorEq, false_iff]
    rintro (⟨rfl, -⟩ | ⟨n, rfl, -⟩)
    · exact hnull rfl
    · exact hnat n rfl

section

variable {held said : Option Json}

theorem exists_held {value : Json} (h : Json.Shows held (some value)) :
    ∃ found, held = some found ∧ found ≠ .null ∧ found.outline = value.outline := by
  obtain ⟨found, hfound, houtline⟩ := Option.map_eq_some_iff.mp h
  obtain ⟨other, hheld, hother⟩ := Option.bind_eq_some_iff.mp hfound
  obtain ⟨rfl, hnull⟩ := Json.said?_eq_some_iff.mp hother
  exact ⟨other, hheld, hnull, houtline⟩

theorem readOr_eq_ok_iff {α : Type} {read : Json → Except ConfigFault α} {write : α → Json}
    (hread : ∀ value x, read value = .ok x ↔ value = write x)
    (hwrite : ∀ x members, write x ≠ .object members)
    (h : Json.Shows held said) (hsaid : said.isSome)
    (initial x : α) : readOr read initial held = .ok x ↔ said = some (write x) := by
  obtain ⟨value, rfl⟩ := Option.isSome_iff_exists.mp hsaid
  obtain ⟨found, rfl, -, houtline⟩ := exists_held h
  rw [readOr, hread, Option.some.injEq, ← Json.outline_eq_iff (hwrite x), houtline,
    Json.outline_eq_iff (hwrite x)]

theorem readOr_count_eq_ok_iff
    (h : Json.Shows held said) (count : Option Nat) :
    readOr readCount RunSettings.initial.parallelism held = .ok count ↔
      said = count.map fun n => .number (.integer n) := by
  cases said with
  | none =>
    -- The defaults hold a null here, which reads as no count, like a key that is not there.
    have hheld : readOr readCount RunSettings.initial.parallelism held = .ok none := by
      cases held with
      | none => rfl
      | some value =>
        cases value <;> simp_all [readOr, readCount, Json.Shows, Json.said?, Json.isNull]
    rw [hheld]
    cases count <;> simp
  | some value =>
    obtain ⟨found, rfl, hnull, houtline⟩ := exists_held h
    have hplain (n : Nat) : found = .number (.integer n) ↔ value = .number (.integer n) := by
      rw [← Json.outline_eq_iff (by simp), houtline, Json.outline_eq_iff (by simp)]
    rw [readOr, readCount_eq_ok_iff]
    cases count <;> simp [hnull, hplain]

end

section

variable {table : Members} {said : String → Option Json}

theorem read_fixtureSettings_eq_ok_iff (h : Ascending table)
    (hsaid : ∀ key, Json.Shows (table.get? key) (said key))
    (hdir : (said "dir").isSome) (hpatterns : (said "include").isSome)
    (hrecursive : (said "recursive").isSome) (fixtures : FixtureSettings) :
    setMembers fixtureSettings .initial table = .ok fixtures ↔
      said "dir" = some (.string fixtures.dir) ∧
      said "include" = some (.array (fixtures.patterns.map .string)) ∧
      said "recursive" = some (.bool fixtures.recursive) := by
  rw [read_fixtureSettings h]
  simp only [bind_eq_ok_iff,
    readOr_eq_ok_iff (fun _ _ => readString_eq_ok_iff) (by simp) (hsaid "dir") hdir,
    readOr_eq_ok_iff (fun _ _ => readStrings_eq_ok_iff) (by simp) (hsaid "include") hpatterns,
    readOr_eq_ok_iff (fun _ _ => readBool_eq_ok_iff) (by simp) (hsaid "recursive") hrecursive]
  constructor
  · rintro ⟨_, hdir, _, hpatterns, _, hrecursive, ⟨⟩⟩
    exact ⟨hdir, hpatterns, hrecursive⟩
  · rintro ⟨hdir, hpatterns, hrecursive⟩
    exact ⟨_, hdir, _, hpatterns, _, hrecursive, rfl⟩

theorem read_decodeSettings_eq_ok_iff (h : Ascending table)
    (hsaid : ∀ key, Json.Shows (table.get? key) (said key))
    (hreject : (said "reject_unknown_fields").isSome) (decode : DecodeSettings) :
    setMembers decodeSettings .initial table = .ok decode ↔
      said "reject_unknown_fields" = some (.bool decode.rejectUnknownFields) := by
  rw [read_decodeSettings h]
  simp only [bind_eq_ok_iff, readOr_eq_ok_iff (fun _ _ => readBool_eq_ok_iff) (by simp)
    (hsaid "reject_unknown_fields") hreject]
  constructor
  · rintro ⟨_, hreject, ⟨⟩⟩
    exact hreject
  · exact fun hreject => ⟨_, hreject, rfl⟩

theorem read_runSettings_eq_ok_iff (h : Ascending table)
    (hsaid : ∀ key, Json.Shows (table.get? key) (said key))
    (hround : (said "round_trip").isSome) (run : RunSettings) :
    setMembers runSettings .initial table = .ok run ↔
      said "parallelism" = run.parallelism.map (fun n => .number (.integer n)) ∧
      said "round_trip" = some (.bool run.roundTrip) := by
  rw [read_runSettings h]
  simp only [bind_eq_ok_iff, readOr_count_eq_ok_iff (hsaid "parallelism"),
    readOr_eq_ok_iff (fun _ _ => readBool_eq_ok_iff) (by simp) (hsaid "round_trip") hround]
  constructor
  · rintro ⟨_, hparallelism, _, hround, ⟨⟩⟩
    exact ⟨hparallelism, hround⟩
  · rintro ⟨hparallelism, hround⟩
    exact ⟨_, hparallelism, _, hround, rfl⟩

end

structure TypedSetting where
  table : String
  key : String
  type : ValueType

def typedSettings : List TypedSetting :=
  [⟨"fixtures", "dir", .text⟩, ⟨"fixtures", "recursive", .flag⟩, ⟨"fixtures", "include", .texts⟩,
   ⟨"decode", "reject_unknown_fields", .flag⟩,
   ⟨"harness", "parallelism", .count⟩, ⟨"harness", "round_trip", .flag⟩]

/-- Every setting is what is said of it under its table and key, and unset where that may be and
nothing is said. -/
structure Follows (config : Config) (said : String → String → Option Json) : Prop where
  dir : said "fixtures" "dir" = some (.string config.fixtures.dir)
  recursive : said "fixtures" "recursive" = some (.bool config.fixtures.recursive)
  patterns : said "fixtures" "include" = some (.array (config.fixtures.patterns.map .string))
  rejectUnknownFields :
    said "decode" "reject_unknown_fields" = some (.bool config.decode.rejectUnknownFields)
  parallelism :
    said "harness" "parallelism" = config.run.parallelism.map fun n => .number (.integer n)
  roundTrip : said "harness" "round_trip" = some (.bool config.run.roundTrip)

variable {said : String → String → Option Json}

def SaidByDefault (said : String → String → Option Json) : Prop :=
  ∀ table key, (initial.toJson.setting? table key).isSome → (said table key).isSome

theorem exists_follows_iff (hdefault : SaidByDefault said) :
    (∃ config : Config, config.Follows said) ↔
      ∀ setting ∈ typedSettings, ∀ value, said setting.table setting.key = some value →
        setting.type.Admits value := by
  constructor
  · rintro ⟨config, h⟩
    have hcount (value : Json) (hvalue : said "harness" "parallelism" = some value) :
        ValueType.count.Admits value := by
      rw [h.parallelism, Option.map_eq_some_iff] at hvalue
      obtain ⟨n, -, rfl⟩ := hvalue
      exact ⟨n, rfl⟩
    simp only [typedSettings, List.forall_mem_cons, h.dir, h.recursive, h.patterns,
      h.rejectUnknownFields, h.roundTrip, Option.some.injEq, forall_eq']
    exact ⟨⟨_, rfl⟩, ⟨_, rfl⟩, ⟨_, rfl⟩, ⟨_, rfl⟩, hcount, ⟨_, rfl⟩, by simp⟩
  · intro h
    have hvalue (setting : TypedSetting) (hmem : setting ∈ typedSettings)
        (hsome : (initial.toJson.setting? setting.table setting.key).isSome) :
        ∃ value, said setting.table setting.key = some value ∧ setting.type.Admits value := by
      obtain ⟨value, hvalue⟩ := Option.isSome_iff_exists.mp (hdefault _ _ hsome)
      exact ⟨value, hvalue, h setting hmem value hvalue⟩
    obtain ⟨_, hdir, dir, rfl⟩ := hvalue ⟨"fixtures", "dir", .text⟩ (by simp [typedSettings]) rfl
    obtain ⟨_, hrecursive, recursive, rfl⟩ :=
      hvalue ⟨"fixtures", "recursive", .flag⟩ (by simp [typedSettings]) rfl
    obtain ⟨_, hpatterns, patterns, rfl⟩ :=
      hvalue ⟨"fixtures", "include", .texts⟩ (by simp [typedSettings]) rfl
    obtain ⟨_, hreject, rejectUnknownFields, rfl⟩ :=
      hvalue ⟨"decode", "reject_unknown_fields", .flag⟩ (by simp [typedSettings]) rfl
    obtain ⟨_, hround, roundTrip, rfl⟩ :=
      hvalue ⟨"harness", "round_trip", .flag⟩ (by simp [typedSettings]) rfl
    have hcount := h ⟨"harness", "parallelism", .count⟩ (by simp [typedSettings])
    obtain ⟨parallelism, hparallelism⟩ : ∃ parallelism : Option Nat,
        said "harness" "parallelism" = parallelism.map fun n => .number (.integer n) := by
      cases hcase : said "harness" "parallelism" with
      | none => exact ⟨none, rfl⟩
      | some value =>
        obtain ⟨n, rfl⟩ := hcount value hcase
        exact ⟨some n, rfl⟩
    exact ⟨⟨⟨dir, recursive, patterns⟩, ⟨rejectUnknownFields⟩, ⟨parallelism, roundTrip⟩⟩,
      hdir, hrecursive, hpatterns, hreject, hparallelism, hround⟩

theorem ofJson_eq_ok_iff {merged : Members} (h : Json.Whole merged)
    (hdefault : SaidByDefault said)
    (hsaid : ∀ setting ∈ sections, ∀ key,
      ((Json.object merged).setting? setting.key key).map Json.outline =
        (said setting.key key).map Json.outline) (config : Config) :
    ofJson (.object merged) = .ok config ↔ config.Follows said := by
  obtain ⟨fixtures, hfixtures, hfixturesAscending⟩ := h.tables sections[0] (by simp [sections])
  obtain ⟨decode, hdecode, hdecodeAscending⟩ := h.tables sections[1] (by simp [sections])
  obtain ⟨run, hrun, hrunAscending⟩ := h.tables sections[2] (by simp [sections])
  have hheld {name : String} {table : Members} (htable : merged.get? name = some (.object table))
      (hname : name ∈ sections.map (·.key)) (key : String) :
      Json.Shows (table.get? key) (said name key) := by
    obtain ⟨setting, hsetting, rfl⟩ := List.mem_map.mp hname
    rw [Json.Shows, ← hsaid setting hsetting, Json.setting?, Json.table_of_get? htable]
  have hfixtures' := hheld hfixtures (by simp [sections])
  have hdecode' := hheld hdecode (by simp [sections])
  have hrun' := hheld hrun (by simp [sections])
  rw [ofJson_tables h.ascending hdecode hfixtures hrun]
  simp only [bind_eq_ok_iff,
    read_decodeSettings_eq_ok_iff hdecodeAscending hdecode' (hdefault _ _ rfl),
    read_fixtureSettings_eq_ok_iff hfixturesAscending hfixtures' (hdefault _ _ rfl)
      (hdefault _ _ rfl) (hdefault _ _ rfl),
    read_runSettings_eq_ok_iff hrunAscending hrun' (hdefault _ _ rfl)]
  constructor
  · rintro ⟨_, hreject, _, ⟨hdir, hpatterns, hrecursive⟩, _, ⟨hparallelism, hround⟩, ⟨⟩⟩
    exact ⟨hdir, hrecursive, hpatterns, hreject, hparallelism, hround⟩
  · intro h
    exact ⟨_, h.rejectUnknownFields, _, ⟨h.dir, h.patterns, h.recursive⟩, _,
      ⟨h.parallelism, h.roundTrip⟩, rfl⟩

theorem whole_initial : ∃ members, initial.toJson = .object members ∧ Json.Whole members := by
  have hwf : initial.toJson.WellFormed := by decide
  have htable (name : String) {table : Members}
      (h : initial.toJson.get? name = some (.object table)) : Ascending table :=
    ((Json.wellFormed_object_iff table).mp (hwf.of_get? h)).1
  refine ⟨_, rfl, ((Json.wellFormed_object_iff _).mp hwf).1, ?_⟩
  simp only [sections, List.forall_mem_cons]
  exact ⟨⟨_, rfl, htable "fixtures" rfl⟩, ⟨_, rfl, htable "decode" rfl⟩,
    ⟨_, rfl, htable "harness" rfl⟩, by simp⟩

/-- What is said of a setting: what the overrides say, else what the file says, else the default. -/
def winning (document overrides : Option Json) (table key : String) : Option Json :=
  Json.firstSaid? table key (overrides.toList ++ document.toList ++ [initial.toJson])

theorem saidByDefault_winning (document overrides : Option Json) :
    SaidByDefault (winning document overrides) := by
  intro table key h
  rw [winning, Json.firstSaid?_append, Json.firstSaid?_cons, Option.isSome_or, Option.isSome_or, h]
  simp

theorem ofLayers_eq_ok_iff {document overrides : Option Json}
    (hlayers : ∀ layer ∈ document.toList ++ overrides.toList, layer.WellFormed ∧ layer.isLayer)
    (config : Config) :
    ofLayers (document.toList ++ overrides.toList) = .ok config ↔
      config.Follows (winning document overrides) := by
  obtain ⟨members, hinitial, hwhole⟩ := whole_initial
  obtain ⟨merged, hmerged, hwhole, hsaid⟩ := hwhole.foldl_stack hlayers
  rw [ofLayers, hinitial, hmerged]
  refine ofJson_eq_ok_iff hwhole (saidByDefault_winning _ _) (fun setting hsetting key => ?_) config
  rw [hsaid setting hsetting key, winning, hinitial]
  cases document <;> cases overrides <;> rfl

theorem wellFormed_of_readFile {path : String} {file : FileTree} {document : Json}
    (h : readFile path file = .ok document) : document.WellFormed := by
  unfold readFile at h
  split at h
  · cases h
  · split at h
    · cases h
    · split at h
      · next hparse =>
        cases h
        exact (Toml.wellFormed_of_parse hparse).1
      · cases h

theorem wellFormed_of_mapM_readFile {path : String} {file : Option FileTree} {document : Json}
    (h : file.mapM (readFile path) = .ok (some document)) : document.WellFormed := by
  cases file with
  | none => cases h
  | some file =>
    obtain ⟨read, hread, heq⟩ := bind_eq_ok_iff.mp h
    cases heq
    exact wellFormed_of_readFile hread

/-- The settings of a run, where the tables of its file and of the overrides are objects or null.
They follow what is said of each setting, and there are none exactly if something said is not of
the type of its setting. -/
theorem load_by_precedence {root : String} {file : Option FileTree}
    {document overrides : Option Json}
    (hfile : file.mapM (readFile (joinPath root fileName)) = .ok document)
    (hdocument : ∀ layer, document = some layer → layer.isLayer)
    (hoverrides : ∀ layer, overrides = some layer → layer.WellFormed ∧ layer.isLayer) :
    (∀ config, load root file overrides = .ok config ↔
      config.Follows (winning document overrides)) ∧
    ((∃ fault, load root file overrides = .error (.invalid fault)) ↔
      ∃ setting ∈ typedSettings, ∃ value,
        winning document overrides setting.table setting.key = some value ∧
          ¬ setting.type.Admits value) := by
  have hlayers : ∀ layer ∈ document.toList ++ overrides.toList,
      layer.WellFormed ∧ layer.isLayer := by
    intro layer hlayer
    rcases List.mem_append.mp hlayer with hlayer | hlayer
    · have hlayer := Option.mem_toList.mp hlayer
      subst hlayer
      exact ⟨wellFormed_of_mapM_readFile hfile, hdocument layer rfl⟩
    · exact hoverrides layer (Option.mem_toList.mp hlayer)
  have hload : load root file overrides =
      (ofLayers (document.toList ++ overrides.toList)).mapError .invalid := by
    rw [load, hfile]
    rfl
  have hok := ofLayers_eq_ok_iff hlayers
  have hinvalid : (∃ fault, load root file overrides = .error (.invalid fault)) ↔
      ∃ fault, ofLayers (document.toList ++ overrides.toList) = .error fault := by
    rw [hload]
    cases ofLayers (document.toList ++ overrides.toList) <;> simp [Except.mapError]
  refine ⟨fun config => by rw [hload, mapError_eq_ok_iff, hok], ?_⟩
  rw [hinvalid, exists_eq_error_iff, exists_congr hok,
    exists_follows_iff (saidByDefault_winning document overrides)]
  simp only [not_forall, exists_prop]

-- Equality of documents cannot be computed, but the shape of one can.
theorem parse_golden : (match Toml.parse "[fixtures]\ndir = 1\nrecursive = true\n" with
    | some (.object [("fixtures", .object
        [("dir", .number (.integer 1)), ("recursive", .bool true)])]) => true
    | _ => false) = true := by
  decide +kernel

theorem load_by_precedence_golden :
    load "/work" (some (.file (Text.encode "[fixtures]\ndir = 1\nrecursive = true\n")))
        (some (.object
          [("decode", .null),
           ("fixtures", .object [("dir", .string "golden"), ("recursive", .null)])])) =
      .ok ⟨⟨"golden", true, ["*.json"]⟩, ⟨true⟩, ⟨none, true⟩⟩ ∧
    ∃ fault,
      load "/work" (some (.file (Text.encode "[fixtures]\ndir = 1\nrecursive = true\n")))
          (some (.object [("fixtures", .object [("dir", .null)])])) =
        .error (.invalid fault) := by
  have hdecode : Text.decode? (Text.encode "[fixtures]\ndir = 1\nrecursive = true\n") =
      some "[fixtures]\ndir = 1\nrecursive = true\n" := by decide +kernel
  have hparse : Toml.parse "[fixtures]\ndir = 1\nrecursive = true\n" =
      some (.object
        [("fixtures", .object [("dir", .number (.integer 1)), ("recursive", .bool true)])]) := by
    have hshape := parse_golden
    split at hshape
    · assumption
    · cases hshape
  have hfile :
      (some (.file (Text.encode "[fixtures]\ndir = 1\nrecursive = true\n"))).mapM
          (readFile (joinPath "/work" fileName)) =
        .ok (some (.object
          [("fixtures", .object [("dir", .number (.integer 1)), ("recursive", .bool true)])])) := by
    rw [Option.mapM_some, readFile]
    simp only [hdecode, hparse]
    rfl
  have hlayer : (Json.object
      [("fixtures", .object [("dir", .number (.integer 1)), ("recursive", .bool true)])]).isLayer :=
    by decide
  constructor
  · refine ((load_by_precedence hfile ?_ ?_).1 _).mpr ⟨rfl, rfl, rfl, rfl, rfl, rfl⟩
    · exact fun _ h => Option.some.inj h ▸ hlayer
    · rintro _ ⟨⟩
      decide
  · refine (load_by_precedence hfile ?_ ?_).2.mpr
      ⟨⟨"fixtures", "dir", .text⟩, by simp [typedSettings], _, rfl, by simp [ValueType.Admits]⟩
    · exact fun _ h => Option.some.inj h ▸ hlayer
    · rintro _ ⟨⟩
      decide

end Config

end LspWire
