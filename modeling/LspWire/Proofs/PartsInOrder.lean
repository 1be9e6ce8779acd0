import LspWire.Decoder.Elementary
import LspWire.Proofs.ExceptStep

/-! The parts of a container read in order.
The items of a list are read one after the other, each at its own index, and the entries of a map,
each at its own key. The container is read when every part is, and gives them all; it is refused as
the first part that is refused. -/

namespace LspWire.Decoder

variable {α : Type}

theorem decodeItems_eq_mapM (d : Decoder α) (cx : Context) (position : Nat) (items : List Json) :
    decodeItems d cx position items =
      (items.zipIdx position).mapM fun part => d.decode part.1 (cx.index part.2) := by
  induction items generalizing position with
  | nil => rfl
  | cons item rest ih =>
    rw [decodeItems, List.zipIdx_cons, List.mapM_cons, ih]

theorem decodeEntries_eq_mapM (d : Decoder α) (cx : Context) (members : Members) :
    decodeEntries d cx members = members.mapM fun member =>
      (d.decode member.2 (cx.entry member.1)).map (member.1, ·) := by
  induction members with
  | nil => rfl
  | cons member rest ih =>
    rw [decodeEntries, List.mapM_cons, ih]
    cases d.decode member.2 (cx.entry member.1) <;> rfl

variable {d : Decoder α} {cx : Context} {e : DecodeError}

theorem decodeItems_eq_ok_iff {position : Nat} {items : List Json} {xs : List α} :
    decodeItems d cx position items = .ok xs ↔ xs.length = items.length ∧
      ∀ (i : Nat) item, items[i]? = some item →
        ∃ x, xs[i]? = some x ∧ d.decode item (cx.index (position + i)) = .ok x := by
  rw [decodeItems_eq_mapM, mapM_eq_ok_iff, List.length_zipIdx]
  simp [List.getElem?_zipIdx]

theorem exists_item_of_mem {position : Nat} {items : List Json} {xs : List α}
    (h : decodeItems d cx position items = .ok xs) {x : α} (hx : x ∈ xs) :
    ∃ item ∈ items, ∃ place, d.decode item (cx.index place) = .ok x := by
  obtain ⟨hlength, hitems⟩ := decodeItems_eq_ok_iff.mp h
  obtain ⟨i, hi, rfl⟩ := List.mem_iff_getElem.mp hx
  have hitem : items[i]? = some items[i] := List.getElem?_eq_getElem (hlength ▸ hi)
  obtain ⟨y, hy, hread⟩ := hitems i _ hitem
  rw [List.getElem?_eq_getElem hi] at hy
  cases hy
  exact ⟨items[i], List.mem_of_getElem? hitem, _, hread⟩

theorem decodeItems_eq_error_iff {position : Nat} {items : List Json} :
    decodeItems d cx position items = .error e ↔ ∃ (i : Nat) (item : Json),
      items[i]? = some item ∧ d.decode item (cx.index (position + i)) = .error e ∧
        ∀ j < i, ∀ other, items[j]? = some other →
          ∃ x, d.decode other (cx.index (position + j)) = .ok x := by
  rw [decodeItems_eq_mapM, mapM_eq_error_iff]
  simp only [List.getElem?_zipIdx, Option.map_eq_some_iff]
  constructor
  · rintro ⟨i, _, ⟨item, hitem, rfl⟩, hfails, hbefore⟩
    exact ⟨i, item, hitem, hfails, fun j hj other hother => hbefore j hj _ ⟨other, hother, rfl⟩⟩
  · rintro ⟨i, item, hitem, hfails, hbefore⟩
    refine ⟨i, _, ⟨item, hitem, rfl⟩, hfails, ?_⟩
    rintro j hj _ ⟨other, hother, rfl⟩
    exact hbefore j hj other hother

theorem exists_decodeItems_eq_ok_iff {position : Nat} {items : List Json} :
    (∃ xs, decodeItems d cx position items = .ok xs) ↔ ∀ (i : Nat) item, items[i]? = some item →
      ∃ x, d.decode item (cx.index (position + i)) = .ok x := by
  constructor
  · rintro ⟨xs, h⟩ i item hitem
    obtain ⟨x, -, hx⟩ := (decodeItems_eq_ok_iff.mp h).2 i item hitem
    exact ⟨x, hx⟩
  · intro h
    rw [decodeItems_eq_mapM, exists_mapM_eq_ok_iff]
    intro part hpart
    obtain ⟨i, hi⟩ := List.mem_iff_getElem?.mp hpart
    rw [List.getElem?_zipIdx] at hi
    obtain ⟨item, hitem, rfl⟩ := Option.map_eq_some_iff.mp hi
    exact h i item hitem

theorem decodeEntries_eq_ok_iff {members : Members} {entries : List (String × α)} :
    decodeEntries d cx members = .ok entries ↔ entries.length = members.length ∧
      ∀ (i : Nat) key held, members[i]? = some (key, held) →
        ∃ x, entries[i]? = some (key, x) ∧ d.decode held (cx.entry key) = .ok x := by
  rw [decodeEntries_eq_mapM, mapM_eq_ok_iff]
  refine and_congr_right fun _ => ⟨fun h i key held hheld => ?_, fun h i member hmember => ?_⟩
  · obtain ⟨_, hentry, hread⟩ := h i (key, held) hheld
    obtain ⟨x, hx, rfl⟩ := map_eq_ok_iff.mp hread
    exact ⟨x, hentry, hx⟩
  · obtain ⟨x, hentry, hx⟩ := h i member.1 member.2 hmember
    exact ⟨_, hentry, map_eq_ok_iff.mpr ⟨x, hx, rfl⟩⟩

theorem exists_member_of_mem {members : Members} {entries : List (String × α)}
    (h : decodeEntries d cx members = .ok entries) {entry : String × α} (hentry : entry ∈ entries) :
    ∃ held, (entry.1, held) ∈ members ∧ d.decode held (cx.entry entry.1) = .ok entry.2 := by
  obtain ⟨hlength, hmembers⟩ := decodeEntries_eq_ok_iff.mp h
  obtain ⟨i, hi, rfl⟩ := List.mem_iff_getElem.mp hentry
  have hmember : members[i]? = some members[i] := List.getElem?_eq_getElem (hlength ▸ hi)
  obtain ⟨y, hy, hread⟩ := hmembers i _ _ hmember
  rw [List.getElem?_eq_getElem hi] at hy
  rw [Option.some.inj hy]
  exact ⟨members[i].2, List.mem_of_getElem? hmember, hread⟩

theorem decodeEntries_eq_error_iff {members : Members} :
    decodeEntries d cx members = .error e ↔ ∃ (i : Nat) (key : String) (held : Json),
      members[i]? = some (key, held) ∧ d.decode held (cx.entry key) = .error e ∧
        ∀ j < i, ∀ other value, members[j]? = some (other, value) →
          ∃ x, d.decode value (cx.entry other) = .ok x := by
  rw [decodeEntries_eq_mapM, mapM_eq_error_iff]
  simp [map_eq_error_iff, map_eq_ok_iff]

theorem exists_decodeEntries_eq_ok_iff {members : Members} :
    (∃ entries, decodeEntries d cx members = .ok entries) ↔
      ∀ member ∈ members, ∃ x, d.decode member.2 (cx.entry member.1) = .ok x := by
  rw [decodeEntries_eq_mapM, exists_mapM_eq_ok_iff]
  simp only [exists_map_eq_ok_iff]

theorem names_of_decodeEntries {members : Members} {entries : List (String × α)}
    (h : decodeEntries d cx members = .ok entries) : entries.map (·.1) = members.names := by
  obtain ⟨hlength, hentries⟩ := decodeEntries_eq_ok_iff.mp h
  refine List.ext_getElem? fun i => ?_
  rw [Members.names, List.getElem?_map, List.getElem?_map]
  cases hmember : members[i]? with
  | none =>
    rw [List.getElem?_eq_none_iff] at hmember
    rw [List.getElem?_eq_none_iff.mpr (hlength ▸ hmember)]
    rfl
  | some member =>
    obtain ⟨x, hx, -⟩ := hentries i member.1 member.2 hmember
    rw [hx]
    rfl

end LspWire.Decoder
