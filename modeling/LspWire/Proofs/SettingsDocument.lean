import LspWire.Proofs.OrderedMembers
import LspWire.Toml.Reader

/-! The document of a settings file is in order.
Tables are entered key by key in the order of the file, and it is their members that are put in
order. So it is enough that every value read is well formed, and that no statement changes one. -/

namespace LspWire.Toml

mutual

def Node.Sound : Node → Prop
  | .value v => v.WellFormed
  | .table _ entries => SoundEntries entries
  | .tables latest earlier => SoundEntries latest ∧ SoundTables earlier

def SoundEntries : List (String × Node) → Prop
  | [] => True
  | (_, node) :: rest => node.Sound ∧ SoundEntries rest

def SoundTables : List (List (String × Node)) → Prop
  | [] => True
  | entries :: rest => SoundEntries entries ∧ SoundTables rest

end

variable {key : String} {node : Node} {entries entries' : Entries}

theorem SoundEntries.nil : SoundEntries [] := by rw [SoundEntries]; trivial

theorem soundEntries_cons :
    SoundEntries ((key, node) :: entries) ↔ node.Sound ∧ SoundEntries entries := by
  rw [SoundEntries]

theorem sound_table {origin : Origin} :
    (Node.table origin entries).Sound ↔ SoundEntries entries := by
  rw [Node.Sound]

theorem sound_tables {latest : Entries} {earlier : List (List (String × Node))} :
    (Node.tables latest earlier).Sound ↔ SoundEntries latest ∧ SoundTables earlier := by
  rw [Node.Sound]

theorem SoundEntries.of_find? (h : SoundEntries entries) (hfind : find? key entries = some node) :
    node.Sound := by
  induction entries with
  | nil => simp [find?] at hfind
  | cons entry rest ih =>
    obtain ⟨other, held⟩ := entry
    rw [soundEntries_cons] at h
    rw [find?] at hfind
    split at hfind
    · cases hfind
      exact h.1
    · exact ih h.2 hfind

theorem SoundEntries.enter (h : SoundEntries entries) (hnode : node.Sound) :
    SoundEntries (enter key node entries) := by
  induction entries with
  | nil => exact soundEntries_cons.mpr ⟨hnode, .nil⟩
  | cons entry rest ih =>
    obtain ⟨other, held⟩ := entry
    rw [soundEntries_cons] at h
    rw [Toml.enter]
    split
    · exact soundEntries_cons.mpr ⟨hnode, h.2⟩
    · exact soundEntries_cons.mpr ⟨h.1, ih h.2⟩

theorem SoundEntries.of_map_enter (h : SoundEntries entries) {changed : Option Entries}
    {make : Entries → Node} (hmake : ∀ inner, changed = some inner → (make inner).Sound)
    (hentries : ((changed.map make).bind fun node => some (Toml.enter key node entries)) =
      some entries') : SoundEntries entries' := by
  cases changed with
  | none => cases hentries
  | some inner =>
    cases hentries
    exact h.enter (hmake inner rfl)

theorem SoundEntries.setKey {v : Json} (hv : v.WellFormed) {path : List String}
    (h : SoundEntries entries) (hset : setKey v path entries = some entries') :
    SoundEntries entries' := by
  induction path generalizing entries entries' with
  | nil => simp [Toml.setKey] at hset
  | cons key rest ih =>
    cases rest with
    | nil =>
      rw [Toml.setKey] at hset
      split at hset
      · cases hset
        exact h.enter (by rwa [Node.Sound])
      · cases hset
    | cons next rest =>
      rw [Toml.setKey] at hset
      split at hset
      · exact h.of_map_enter (fun _ hinner => sound_table.mpr (ih .nil hinner)) hset
      · next held hfind =>
        have hheld := sound_table.mp (h.of_find? hfind)
        exact h.of_map_enter (fun _ hinner => sound_table.mpr (ih hheld hinner)) hset
      · next held hfind =>
        have hheld := sound_table.mp (h.of_find? hfind)
        split at hset
        · cases hset
        · exact h.of_map_enter (fun _ hinner => sound_table.mpr (ih hheld hinner)) hset
      · next latest earlier hfind =>
        have hheld := sound_tables.mp (h.of_find? hfind)
        split at hset
        · cases hset
        · exact h.of_map_enter
            (fun _ hinner => sound_tables.mpr ⟨ih hheld.1 hinner, hheld.2⟩) hset
      all_goals cases hset

theorem sound_of_opened {repeated : Bool} {held : Option Node}
    (h : ∀ node, held = some node → node.Sound) (hopened : opened repeated held = some node) :
    node.Sound := by
  unfold opened at hopened
  split at hopened
  · cases hopened
    split <;> simp [Node.Sound, SoundEntries, SoundTables]
  · next inner =>
    split at hopened
    · cases hopened
    · cases hopened
      exact sound_table.mpr (sound_table.mp (h _ rfl))
  · next latest earlier =>
    split at hopened
    · cases hopened
      rw [Node.Sound, SoundTables]
      exact ⟨.nil, sound_tables.mp (h _ rfl)⟩
    · cases hopened
  · cases hopened

theorem SoundEntries.openTable {repeated : Bool} {path : List String} (h : SoundEntries entries)
    (hopen : openTable repeated path entries = some entries') : SoundEntries entries' := by
  induction path generalizing entries entries' with
  | nil => simp [Toml.openTable] at hopen
  | cons key rest ih =>
    cases rest with
    | nil =>
      rw [Toml.openTable, Option.map_eq_some_iff] at hopen
      obtain ⟨node, hnode, rfl⟩ := hopen
      exact h.enter (sound_of_opened (fun _ => h.of_find?) hnode)
    | cons next rest =>
      rw [Toml.openTable] at hopen
      split at hopen
      · exact h.of_map_enter (fun _ hinner => sound_table.mpr (ih .nil hinner)) hopen
      · next origin held hfind =>
        have hheld := sound_table.mp (h.of_find? hfind)
        exact h.of_map_enter (fun _ hinner => sound_table.mpr (ih hheld hinner)) hopen
      · next latest earlier hfind =>
        have hheld := sound_tables.mp (h.of_find? hfind)
        exact h.of_map_enter
          (fun _ hinner => sound_tables.mpr ⟨ih hheld.1 hinner, hheld.2⟩) hopen
      · cases hopen

theorem SoundEntries.changeTable {change : Entries → Option Entries}
    (hchange : ∀ entries entries', SoundEntries entries → change entries = some entries' →
      SoundEntries entries')
    {path : List String} (h : SoundEntries entries)
    (hchanged : changeTable change path entries = some entries') : SoundEntries entries' := by
  induction path generalizing entries entries' with
  | nil => exact hchange _ _ h (by rwa [Toml.changeTable] at hchanged)
  | cons key rest ih =>
    rw [Toml.changeTable] at hchanged
    split at hchanged
    · next origin held hfind =>
      have hheld := sound_table.mp (h.of_find? hfind)
      exact h.of_map_enter (fun _ hinner => sound_table.mpr (ih hheld hinner)) hchanged
    · next latest earlier hfind =>
      have hheld := sound_tables.mp (h.of_find? hfind)
      exact h.of_map_enter
        (fun _ hinner => sound_tables.mpr ⟨ih hheld.1 hinner, hheld.2⟩) hchanged
    · cases hchanged

mutual

theorem Node.wellFormed_toJson : ∀ (node : Node), node.Sound → node.toJson.WellFormed
  | .value v, h => by rwa [Node.Sound] at h
  | .table _ entries, h => by
    rw [sound_table] at h
    exact wellFormed_membersOf entries h
  | .tables latest earlier, h => by
    rw [sound_tables] at h
    rw [Node.toJson, Json.wellFormed_array_iff]
    intro item hitem
    rw [List.mem_reverse, List.mem_cons] at hitem
    rcases hitem with rfl | hitem
    · exact wellFormed_membersOf latest h.1
    · exact wellFormed_of_mem_itemsOf earlier h.2 item hitem

theorem wellFormed_membersOf :
    ∀ (entries : List (String × Node)), SoundEntries entries →
      (Json.object (membersOf entries)).WellFormed
  | [], _ => by simp [membersOf, Json.wellFormed_object_iff, Ascending]
  | (key, node) :: rest, h => by
    rw [soundEntries_cons] at h
    have hrest := (Json.wellFormed_object_iff _).mp (wellFormed_membersOf rest h.2)
    rw [membersOf, Json.wellFormed_object_iff]
    refine ⟨Members.ascending_insert _ _ hrest.1, fun member hm => ?_⟩
    rcases Members.mem_insert hm with rfl | hm
    · exact node.wellFormed_toJson h.1
    · exact hrest.2 member hm

theorem wellFormed_of_mem_itemsOf :
    ∀ (tables : List (List (String × Node))), SoundTables tables →
      ∀ item ∈ itemsOf tables, item.WellFormed
  | [], _, item, hitem => by simp [itemsOf] at hitem
  | entries :: rest, h, item, hitem => by
    rw [SoundTables] at h
    rw [itemsOf, List.mem_cons] at hitem
    rcases hitem with rfl | hitem
    · exact wellFormed_membersOf entries h.1
    · exact wellFormed_of_mem_itemsOf rest h.2 item hitem

end

theorem forall_mem_bind {α β : Type} {p : β → Prop} {x : Option α} {f : α → Option β}
    (h : ∀ a ∈ x, ∀ b ∈ f a, p b) : ∀ b ∈ x >>= f, p b := by
  intro b hb
  obtain ⟨a, ha, hb⟩ := Option.bind_eq_some_iff.mp hb
  exact h a ha b hb

theorem forall_mem_pure {α : Type} {p : α → Prop} {a : α} (h : p a) :
    ∀ b ∈ (pure a : Option α), p b := by
  simpa using h

theorem wellFormed_of_mem_integer? (negative : Bool) (magnitude : Nat) :
    ∀ v ∈ integer? negative magnitude, v.WellFormed := by
  intro v hv
  simp only [integer?, Option.mem_def, Option.ite_none_right_eq_some] at hv
  obtain ⟨-, hv⟩ := hv
  cases hv
  trivial

theorem wellFormed_of_mem_float? (negative : Bool) (significand : Nat) (exponent : Int) :
    ∀ v ∈ float? negative significand exponent, v.WellFormed := by
  intro v hv
  obtain ⟨x, -, rfl⟩ := Option.map_eq_some_iff.mp hv
  trivial

theorem wellFormed_of_mem_readInteger (s : List Char) :
    ∀ v ∈ readInteger s, v.WellFormed := by
  unfold readInteger
  split
  · split_ifs
    case neg => simp
    all_goals
      exact forall_mem_bind fun _ _ => forall_mem_bind fun _ _ => wellFormed_of_mem_integer? _ _
  · exact forall_mem_bind fun _ _ => forall_mem_bind fun _ _ => wellFormed_of_mem_integer? _ _

theorem wellFormed_of_mem_readFloat (s : List Char) : ∀ v ∈ readFloat s, v.WellFormed := by
  unfold readFloat
  obtain ⟨negative, unsigned⟩ := splitSign s
  dsimp only
  obtain ⟨mantissa, power⟩ := splitAtFirst (fun c => c == 'e' || c == 'E') unsigned
  dsimp only
  obtain ⟨whole, fraction⟩ := splitAtFirst (· == '.') mantissa
  dsimp only
  refine forall_mem_bind fun whole _ => ?_
  -- Whichever parts are there, the last step is the same.
  have hlast (digits : List Char) (exponent : Int) :
      ∀ v ∈ digitsValue? 10 (whole ++ digits) >>=
        (float? negative · (exponent - digits.length)), v.WellFormed :=
    forall_mem_bind fun _ _ => wellFormed_of_mem_float? _ _ _
  cases fraction with
  | some digits =>
    refine forall_mem_bind fun digits _ => ?_
    cases power <;> exact forall_mem_bind fun exponent _ => hlast digits exponent
  | none =>
    cases power with
    | some power =>
      exact forall_mem_bind fun _ hdigits => by
        cases hdigits
        exact forall_mem_bind fun exponent _ => hlast [] exponent
    | none => simp

theorem wellFormed_of_mem_readScalar (s : List Char) : ∀ v ∈ readScalar s, v.WellFormed := by
  unfold readScalar
  split_ifs
  · simp [Json.WellFormed]
  · simp [Json.WellFormed]
  · simp [Json.WellFormed]
  · simp [Json.WellFormed, Json.WellFormedMembers]
  · cases hinteger : readInteger s with
    | none => exact wellFormed_of_mem_readFloat s
    | some v => simpa using wellFormed_of_mem_readInteger s v hinteger

def Reader.Yields {α : Type} (p : α → Prop) (read : Reader α) : Prop :=
  ∀ s, ∀ result ∈ read s, p result.1

variable {item : Reader Json}

theorem Reader.Yields.readItems (hitem : item.Yields Json.WellFormed) :
    Reader.Yields (fun items => ∀ v ∈ items, v.WellFormed) (readItems item) := by
  intro s
  fun_induction Toml.readItems item s with
  | case1 s ih =>
    refine forall_mem_bind ?_
    rintro ⟨first, behind⟩ -
    dsimp only
    split
    · simp
    · refine forall_mem_bind ?_
      rintro ⟨value, rest⟩ hvalue
      have hvalue := hitem _ _ hvalue
      refine forall_mem_bind fun next _ => ?_
      split
      · refine forall_mem_bind ?_
        rintro ⟨values, rest'⟩ hvalues
        have hvalues := ih _ _ _ _ _ hvalues
        exact forall_mem_pure (List.forall_mem_cons.mpr ⟨hvalue, hvalues⟩)
      · exact forall_mem_pure (List.forall_mem_singleton.mpr hvalue)
      · simp

theorem Reader.Yields.readPair (hitem : item.Yields Json.WellFormed) (skipped : Token → Bool) :
    Reader.Yields (fun pair => pair.2.WellFormed) (readPair skipped item) := by
  intro s
  unfold Toml.readPair
  refine forall_mem_bind ?_
  rintro ⟨key, rest⟩ -
  refine forall_mem_bind fun next _ => ?_
  split
  · refine forall_mem_bind ?_
    rintro ⟨v, rest'⟩ hv
    exact forall_mem_pure (hitem _ _ hv)
  · simp

theorem Reader.Yields.readPairs (hitem : item.Yields Json.WellFormed) {entries : Entries}
    (h : SoundEntries entries) (s : List Token) :
    ∀ result ∈ readPairs item entries s, SoundEntries result.1 := by
  fun_induction Toml.readPairs item entries s with
  | case1 entries s ih =>
    refine forall_mem_bind ?_
    rintro ⟨first, behind⟩ -
    dsimp only
    split
    · exact forall_mem_pure h
    · refine forall_mem_bind ?_
      rintro ⟨⟨key, v⟩, rest⟩ hpair
      have hv := hitem.readPair _ _ _ hpair
      refine forall_mem_bind fun entries' hentries => ?_
      have h := h.setKey hv hentries
      refine forall_mem_bind fun next _ => ?_
      split
      · refine forall_mem_bind ?_
        rintro ⟨entries'', rest'⟩ hmore
        exact forall_mem_pure (ih _ _ _ _ _ h _ hmore)
      · exact forall_mem_pure h
      · simp

theorem yields_readFrom {inside : Option (Reader Json)}
    (h : ∀ item ∈ inside, Reader.Yields Json.WellFormed item) :
    Reader.Yields Json.WellFormed (readFrom inside) := by
  intro s
  unfold readFrom
  split
  · simp
  · exact forall_mem_pure trivial
  · refine forall_mem_bind fun item hitem => forall_mem_bind ?_
    rintro ⟨items, rest⟩ hitems
    have hall := (h item hitem).readItems _ _ hitems
    exact forall_mem_pure ((Json.wellFormed_array_iff items).mpr hall)
  · refine forall_mem_bind fun item hitem => forall_mem_bind ?_
    rintro ⟨entries, rest⟩ hentries
    have hsound := (h item hitem).readPairs .nil _ _ hentries
    exact forall_mem_pure (wellFormed_membersOf entries hsound)
  · refine forall_mem_bind fun v hv => ?_
    exact forall_mem_pure (wellFormed_of_mem_readScalar _ v hv)
  · simp

theorem yields_readValue (depth : Nat) : Reader.Yields Json.WellFormed (readValue depth) := by
  induction depth with
  | zero => exact yields_readFrom (by simp)
  | succ depth ih => exact yields_readFrom (by simpa using ih)

def Statement.Sound : Statement → Prop
  | .pair _ v => v.WellFormed
  | .header .. => True

theorem yields_readStatement : Reader.Yields Statement.Sound readStatement := by
  intro s
  unfold readStatement
  have hheader (repeated : Bool) (s : List Token) :
      ∀ result ∈ readHeader repeated s, result.1.Sound := by
    unfold readHeader
    refine forall_mem_bind ?_
    rintro ⟨path, rest⟩ -
    refine forall_mem_bind fun next _ => ?_
    split
    · dsimp only
      split <;> simp [Statement.Sound]
    · simp
  split
  · refine forall_mem_bind ?_
    rintro ⟨statement, rest⟩ h
    exact forall_mem_pure (hheader _ _ _ h)
  · refine forall_mem_bind ?_
    rintro ⟨statement, rest⟩ h
    exact forall_mem_pure (hheader _ _ _ h)
  · refine forall_mem_bind ?_
    rintro ⟨⟨key, v⟩, rest⟩ h
    exact forall_mem_pure ((yields_readValue maxDepth).readPair _ _ _ h)

theorem sound_of_mem_readStatements (s : List Token) :
    ∀ statements ∈ readStatements s, ∀ statement ∈ statements, statement.Sound := by
  fun_induction readStatements s with
  | case1 s ih => simp
  | case2 s first behind _ start ih =>
    refine forall_mem_bind ?_
    rintro ⟨statement, rest⟩ hstatement
    have hstatement := yields_readStatement _ _ hstatement
    dsimp only
    split
    · exact forall_mem_pure (List.forall_mem_singleton.mpr hstatement)
    · refine forall_mem_bind fun statements hstatements => ?_
      exact forall_mem_pure (List.forall_mem_cons.mpr ⟨hstatement, ih _ _ _ hstatements⟩)
    · simp

theorem SoundEntries.build {path : List String} {statements : List Statement}
    (h : SoundEntries entries) (hstatements : ∀ statement ∈ statements, statement.Sound) :
    ∀ entries' ∈ build path entries statements, SoundEntries entries' := by
  induction statements generalizing path entries with
  | nil => simpa [Toml.build]
  | cons statement rest ih =>
    obtain ⟨hstatement, hrest⟩ := List.forall_mem_cons.mp hstatements
    cases statement with
    | pair key v =>
      rw [Toml.build]
      refine forall_mem_bind fun changed hchanged => ih (h.changeTable ?_ hchanged) hrest
      exact fun _ _ held hset => held.setKey hstatement hset
    | header path' repeated =>
      rw [Toml.build]
      exact forall_mem_bind fun opened hopened => ih (h.openTable hopened) hrest

theorem wellFormed_of_parse {text : String} {document : Json} (h : parse text = some document) :
    document.WellFormed ∧ ∃ members, document = .object members := by
  have hall : ∀ document ∈ parse text,
      document.WellFormed ∧ ∃ members, document = .object members := by
    unfold parse
    refine forall_mem_bind fun _ _ => forall_mem_bind fun statements hstatements => ?_
    refine forall_mem_bind fun entries hentries => ?_
    have hsound := sound_of_mem_readStatements _ _ hstatements
    refine forall_mem_pure ?_
    exact ⟨wellFormed_membersOf entries (SoundEntries.nil.build hsound entries hentries), _, rfl⟩
  exact hall document h

end LspWire.Toml
