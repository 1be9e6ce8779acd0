import LspWire.Registry.NameTable
import Mathlib.Data.List.Nodup
import Mathlib.Tactic.ByContra

/-! Tables with their names in order.
An entry is put in its place, so the names of a table ascend however it was filled, and no name
comes twice. A table that entries were added to one after the other holds the last entry for each
name. -/

namespace LspWire

def Ascending {α : Type} (entries : List (String × α)) : Prop :=
  entries.Pairwise fun a b => a.1 < b.1

instance {α : Type} (entries : List (String × α)) : Decidable (Ascending entries) :=
  inferInstanceAs (Decidable (entries.Pairwise fun a b => a.1 < b.1))

theorem Ascending.names_nodup {α : Type} {entries : List (String × α)} (h : Ascending entries) :
    (entries.map (·.1)).Nodup := by
  rw [List.Nodup, List.pairwise_map]
  refine List.Pairwise.imp ?_ h
  intro a b hab heq
  rw [heq] at hab
  exact String.lt_irrefl _ hab

theorem ascending_map {α β : Type} (f : α → β) (entries : List (String × α)) :
    Ascending (entries.map fun entry => (entry.1, f entry.2)) ↔ Ascending entries := by
  rw [Ascending, List.pairwise_map]
  rfl

theorem lt_of_not_lt_of_ne {a b : String} (hlt : ¬ a < b) (hne : a ≠ b) : b < a := by
  by_contra hba
  exact hne (String.le_antisymm (String.not_lt.mp hba) (String.not_lt.mp hlt))

universe u

theorem filter_key_eq_singleton {α : Type u} (key : α → String) {entries : List α}
    (hnodup : (entries.map key).Nodup) {a : α} (ha : a ∈ entries) :
    entries.filter (fun other => key other == key a) = [a] := by
  induction entries with
  | nil => cases ha
  | cons head rest ih =>
    obtain ⟨hhead, hrest⟩ := List.nodup_cons.mp hnodup
    rcases List.mem_cons.mp ha with rfl | ha
    · rw [List.filter_cons, if_pos (beq_self_eq_true _), List.filter_eq_nil_iff.mpr]
      exact fun other hother heq => hhead (List.mem_map.mpr ⟨other, hother, beq_iff_eq.mp heq⟩)
    · have hne : key head ≠ key a := fun heq => hhead (List.mem_map.mpr ⟨a, ha, heq.symm⟩)
      rw [List.filter_cons, if_neg fun h => hne (beq_iff_eq.mp h), ih hrest ha]

namespace NameTable

section

variable {β : Type}

theorem mem_insertInto {name : String} {entry : β} {entries : List (String × β)}
    {held : String × β} (h : held ∈ insertInto name entry entries) :
    held = (name, entry) ∨ held ∈ entries := by
  induction entries with
  | nil => simpa [insertInto] using h
  | cons head rest ih =>
    obtain ⟨other, found⟩ := head
    rw [insertInto] at h
    split at h
    · simpa using h
    split at h
    · rcases List.mem_cons.mp h with h | h
      · exact .inl h
      · exact .inr (List.mem_cons_of_mem _ h)
    · rcases List.mem_cons.mp h with h | h
      · exact .inr (h ▸ List.mem_cons_self)
      · exact (ih h).imp_right (List.mem_cons_of_mem _)

theorem ascending_insertInto (name : String) (entry : β) {entries : List (String × β)}
    (h : Ascending entries) : Ascending (insertInto name entry entries) := by
  induction entries with
  | nil => exact List.pairwise_singleton _ _
  | cons head rest ih =>
    obtain ⟨other, found⟩ := head
    obtain ⟨hhead, hrest⟩ := List.pairwise_cons.mp h
    rw [insertInto]
    split
    · next hlt =>
      refine List.pairwise_cons.mpr ⟨fun held hm => ?_, h⟩
      rcases List.mem_cons.mp hm with rfl | hm
      · exact hlt
      · exact String.lt_trans hlt (hhead held hm)
    split
    · next heq => exact List.pairwise_cons.mpr ⟨fun held hm => heq ▸ hhead held hm, hrest⟩
    · next hlt hne =>
      refine List.pairwise_cons.mpr ⟨fun held hm => ?_, ih hrest⟩
      rcases mem_insertInto hm with rfl | hm
      · exact lt_of_not_lt_of_ne hlt hne
      · exact hhead held hm

theorem mem_names_iff (table : NameTable β) (key : String) :
    key ∈ table.names ↔ (table.get? key).isSome := by
  obtain ⟨entries⟩ := table
  change key ∈ entries.map (·.1) ↔ (find? entries key).isSome
  induction entries with
  | nil => simp [find?]
  | cons head rest ih =>
    obtain ⟨other, found⟩ := head
    rw [List.map_cons, List.mem_cons, ih, find?]
    by_cases h : other = key
    · simp [h]
    · simp [h, Ne.symm h]

theorem find?_eq_none_of_lt {entries : List (String × β)} {name : String}
    (h : ∀ entry ∈ entries, name < entry.1) : find? entries name = none := by
  induction entries with
  | nil => rfl
  | cons head rest ih =>
    rw [List.forall_mem_cons] at h
    have hne : head.1 ≠ name := fun heq => String.lt_irrefl _ (heq ▸ h.1)
    rw [find?, if_neg hne, ih h.2]

theorem find?_of_mem {entries : List (String × β)} (hnodup : (entries.map (·.1)).Nodup)
    {entry : String × β} (h : entry ∈ entries) : find? entries entry.1 = some entry.2 := by
  induction entries with
  | nil => cases h
  | cons head rest ih =>
    obtain ⟨hhead, hrest⟩ := List.nodup_cons.mp hnodup
    rcases List.mem_cons.mp h with rfl | h
    · rw [find?, if_pos rfl]
    · have hne : head.1 ≠ entry.1 := fun heq => hhead (List.mem_map.mpr ⟨entry, h, heq.symm⟩)
      rw [find?, if_neg hne, ih hrest h]

end

variable {β : Type u}

def insertAll (table : NameTable β) (named : List (String × β)) : NameTable β :=
  named.foldl (fun table entry => table.insert entry.1 entry.2) table

theorem insertAll_append (table : NameTable β) (front back : List (String × β)) :
    table.insertAll (front ++ back) = (table.insertAll front).insertAll back :=
  List.foldl_append

theorem get?_insertAll (table : NameTable β) (named : List (String × β)) (key : String) :
    (table.insertAll named).get? key =
      (((named.filter fun entry => entry.1 == key).getLast?).map (·.2)).or (table.get? key) := by
  induction named generalizing table with
  | nil => rfl
  | cons entry rest ih =>
    have hstep : table.insertAll (entry :: rest) = (table.insert entry.1 entry.2).insertAll rest :=
      rfl
    rw [hstep, ih, get?_insert, List.filter_cons]
    split
    · next heq =>
      rw [if_pos (beq_iff_eq.mpr heq), List.getLast?_cons]
      cases (rest.filter fun entry => entry.1 == key).getLast? <;> rfl
    · next hne =>
      rw [if_neg fun h => hne (beq_iff_eq.mp h)]

theorem get?_insertAll_empty_iff {named : List (String × β)} (hnodup : (named.map (·.1)).Nodup)
    {key : String} {held : β} :
    ((empty : NameTable β).insertAll named).get? key = some held ↔ (key, held) ∈ named := by
  rw [get?_insertAll, get?_empty, Option.or_none, Option.map_eq_some_iff]
  constructor
  · rintro ⟨entry, hlast, rfl⟩
    have hmem := List.mem_filter.mp (List.mem_of_getLast? hlast)
    rw [← beq_iff_eq.mp hmem.2]
    exact hmem.1
  · intro hmem
    have hfilter := filter_key_eq_singleton (·.1) hnodup hmem
    exact ⟨(key, held), by rw [hfilter]; rfl, rfl⟩

theorem get?_insertAll_map (name : β → String) (entries : List β) (key : String) :
    ((empty : NameTable β).insertAll (entries.map fun b => (name b, b))).get? key =
      (entries.filter fun b => name b == key).getLast? := by
  rw [get?_insertAll, get?_empty, Option.or_none, List.filter_map, List.getLast?_map,
    Option.map_map]
  change Option.map id _ = _
  rw [Option.map_id_fun]
  rfl

theorem get?_insertAll_map_iff {name : β → String} {entries : List β}
    (hnodup : (entries.map name).Nodup) {key : String} {held : β} :
    ((empty : NameTable β).insertAll (entries.map fun b => (name b, b))).get? key = some held ↔
      held ∈ entries ∧ name held = key := by
  have hnames : ((entries.map fun b => (name b, b)).map (·.1)).Nodup := by
    rw [List.map_map]
    exact hnodup
  rw [get?_insertAll_empty_iff hnames, List.mem_map]
  constructor
  · rintro ⟨found, hfound, heq⟩
    cases heq
    exact ⟨hfound, rfl⟩
  · rintro ⟨hheld, rfl⟩
    exact ⟨held, hheld, rfl⟩

theorem ascending_insertAll {β : Type} (named : List (String × β)) :
    Ascending ((empty : NameTable β).insertAll named).entries := by
  have step : ∀ table : NameTable β, Ascending table.entries →
      Ascending (table.insertAll named).entries := by
    induction named with
    | nil => exact fun table h => h
    | cons entry rest ih => exact fun table h => ih _ (ascending_insertInto entry.1 entry.2 h)
  exact step empty List.Pairwise.nil

end NameTable

end LspWire
