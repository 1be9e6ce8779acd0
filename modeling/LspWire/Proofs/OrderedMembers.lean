import LspWire.Json.Basic
import LspWire.Proofs.AscendingTable

/-! Objects with their members in order.
Lists of members whose names ascend are determined by what they hold under each name, so putting
members in order gives the one such list. A document that is in order already stays as it is, and
one that is sorted is well formed. -/

namespace LspWire

namespace Members

@[simp] theorem get?_nil (key : String) : get? [] key = none := rfl

theorem get?_cons (name : String) (value : Json) (members : Members) (key : String) :
    get? ((name, value) :: members) key = if name = key then some value else members.get? key := by
  by_cases h : name = key <;> simp [get?, h]

theorem get?_append (front back : Members) (key : String) :
    get? (front ++ back) key = (front.get? key).or (back.get? key) := by
  induction front with
  | nil => simp
  | cons member rest ih =>
    obtain ⟨name, value⟩ := member
    rw [List.cons_append, get?_cons, get?_cons, ih]
    split <;> simp

theorem mem_names_iff (members : Members) (key : String) :
    key ∈ members.names ↔ (members.get? key).isSome := by
  induction members with
  | nil => simp [names]
  | cons member rest ih =>
    obtain ⟨name, value⟩ := member
    rw [get?_cons, names, List.map_cons, List.mem_cons, ← names, ih]
    by_cases h : name = key
    · simp [h]
    · simp [h, Ne.symm h]

theorem get?_eq_none_iff (members : Members) (key : String) :
    members.get? key = none ↔ key ∉ members.names := by
  rw [mem_names_iff, Bool.not_eq_true, Option.isSome_eq_false_iff, Option.isNone_iff_eq_none]

theorem mem_of_get?_eq_some {members : Members} {key : String} {value : Json}
    (h : members.get? key = some value) : (key, value) ∈ members := by
  induction members with
  | nil => simp at h
  | cons member rest ih =>
    obtain ⟨name, held⟩ := member
    rw [get?_cons] at h
    split at h
    · next heq => simp_all
    · exact List.mem_cons_of_mem _ (ih h)

theorem get?_eq_some_of_mem {members : Members} (h : members.names.Nodup) {key : String}
    {value : Json} (hm : (key, value) ∈ members) : members.get? key = some value := by
  induction members with
  | nil => cases hm
  | cons member rest ih =>
    obtain ⟨name, held⟩ := member
    obtain ⟨hname, hrest⟩ := List.nodup_cons.mp h
    rcases List.mem_cons.mp hm with heq | hm
    · cases heq
      rw [get?_cons, if_pos rfl]
    · have hkey : key ∈ Members.names rest := List.mem_map_of_mem hm
      rw [get?_cons, if_neg fun heq : name = key => hname (heq ▸ hkey), ih hrest hm]

theorem get?_eq_some_iff {members : Members} (h : Ascending members) {key : String} {held : Json} :
    members.get? key = some held ↔ (key, held) ∈ members :=
  ⟨mem_of_get?_eq_some, get?_eq_some_of_mem h.names_nodup⟩

theorem get?_insert (name : String) (value : Json) (members : Members) (key : String) :
    (insert name value members).get? key = if name = key then some value else members.get? key := by
  induction members with
  | nil => rw [insert, get?_cons]
  | cons member rest ih =>
    obtain ⟨other, held⟩ := member
    rw [insert]
    split
    · rw [get?_cons]
    split
    · next heq => rw [get?_cons, get?_cons, heq]; split <;> rfl
    · next heq =>
      rw [get?_cons, get?_cons, ih]
      by_cases hkey : other = key
      · rw [if_pos hkey, if_pos hkey, if_neg (fun h => heq (h.trans hkey.symm))]
      · rw [if_neg hkey, if_neg hkey]

theorem insert_eq_insertInto (name : String) (value : Json) (members : Members) :
    insert name value members = NameTable.insertInto name value members := by
  induction members with
  | nil => rfl
  | cons head rest ih =>
    obtain ⟨other, held⟩ := head
    rw [insert, NameTable.insertInto, ih]

theorem mem_insert {name : String} {value : Json} {members : Members} {member : String × Json}
    (h : member ∈ insert name value members) : member = (name, value) ∨ member ∈ members := by
  rw [insert_eq_insertInto] at h
  exact NameTable.mem_insertInto h

theorem ascending_insert (name : String) (value : Json) {members : Members}
    (h : Ascending members) : Ascending (insert name value members) := by
  rw [insert_eq_insertInto]
  exact NameTable.ascending_insertInto name value h

theorem ascending_ordered (members : Members) : Ascending members.ordered := by
  have step : ∀ (rest kept : Members), Ascending kept →
      Ascending (rest.foldl (fun kept member => Members.insert member.1 member.2 kept) kept) := by
    intro rest
    induction rest with
    | nil => exact fun kept h => h
    | cons member rest ih => exact fun kept h => ih _ (ascending_insert _ _ h)
  exact step members [] List.Pairwise.nil

theorem mem_ordered {members : Members} {member : String × Json} (h : member ∈ members.ordered) :
    member ∈ members := by
  have step : ∀ (rest kept : Members),
      member ∈ rest.foldl (fun kept member => Members.insert member.1 member.2 kept) kept →
      member ∈ rest ∨ member ∈ kept := by
    intro rest
    induction rest with
    | nil => exact fun kept h => .inr h
    | cons head rest ih =>
      intro kept h
      rcases ih _ h with h | h
      · exact .inl (List.mem_cons_of_mem _ h)
      · rcases mem_insert h with rfl | h
        · exact .inl List.mem_cons_self
        · exact .inr h
  simpa using step members [] h

theorem get?_ordered {members : Members} (h : members.names.Nodup) (key : String) :
    members.ordered.get? key = members.get? key := by
  have step : ∀ (rest kept : Members), rest.names.Nodup →
      get? (rest.foldl (fun kept member => Members.insert member.1 member.2 kept) kept) key =
        (rest.get? key).or (kept.get? key) := by
    intro rest
    induction rest with
    | nil => simp
    | cons member rest ih =>
      obtain ⟨name, value⟩ := member
      intro kept h
      obtain ⟨hname, hrest⟩ := List.nodup_cons.mp h
      rw [List.foldl_cons, ih _ hrest, get?_insert, get?_cons]
      by_cases hkey : name = key
      · have hnone : get? rest key = none := (get?_eq_none_iff rest key).mpr (hkey ▸ hname)
        simp [hkey, hnone]
      · simp [hkey]
  have h := step members [] h
  rwa [get?_nil, Option.or_none] at h

theorem get?_eq_none_of_ascending {name : String} {value : Json} {rest : Members}
    (h : Ascending ((name, value) :: rest)) {key : String} (hkey : key = name ∨ key < name) :
    rest.get? key = none := by
  rw [get?_eq_none_iff, names, List.mem_map]
  rintro ⟨member, hm, rfl⟩
  have hlt := (List.pairwise_cons.mp h).1 member hm
  rcases hkey with heq | hlt'
  · exact String.lt_irrefl _ (heq ▸ hlt)
  · exact String.lt_irrefl _ (String.lt_trans hlt hlt')

theorem eq_of_get?_eq {a b : Members} (ha : Ascending a) (hb : Ascending b)
    (h : ∀ key, a.get? key = b.get? key) : a = b := by
  induction a generalizing b with
  | nil =>
    cases b with
    | nil => rfl
    | cons member rest =>
      have hkey := h member.1
      rw [get?_nil, get?_cons member.1 member.2, if_pos rfl] at hkey
      cases hkey
  | cons first rest ih =>
    obtain ⟨m, x⟩ := first
    cases b with
    | nil => exact absurd (h m) (by simp [get?_cons])
    | cons first' rest' =>
      obtain ⟨n, y⟩ := first'
      have hmn : m = n := by
        by_contra hne
        rcases Classical.em (m < n) with hlt | hlt
        · have hm := h m
          rw [get?_cons, if_pos rfl, get?_cons, if_neg (Ne.symm hne),
            get?_eq_none_of_ascending hb (.inr hlt)] at hm
          cases hm
        · have hn := h n
          rw [get?_cons, if_neg hne, get?_cons, if_pos rfl,
            get?_eq_none_of_ascending ha (.inr (lt_of_not_lt_of_ne hlt hne))] at hn
          cases hn
      subst hmn
      have hxy : x = y := by simpa [get?_cons] using h m
      subst hxy
      congr 1
      refine ih (List.pairwise_cons.mp ha).2 (List.pairwise_cons.mp hb).2 fun key => ?_
      by_cases hkey : m = key
      · rw [get?_eq_none_of_ascending ha (.inl hkey.symm),
          get?_eq_none_of_ascending hb (.inl hkey.symm)]
      · simpa [get?_cons, hkey] using h key

theorem ordered_eq {members target : Members} (hnodup : members.names.Nodup)
    (htarget : Ascending target) (h : ∀ key, members.get? key = target.get? key) :
    members.ordered = target :=
  eq_of_get?_eq (ascending_ordered members) htarget fun key =>
    (get?_ordered hnodup key).trans (h key)

theorem ordered_of_ascending {members : Members} (h : Ascending members) :
    members.ordered = members :=
  ordered_eq h.names_nodup h fun _ => rfl

end Members

namespace Json

theorem sortedItems_eq_map (items : List Json) : sortedItems items = items.map sorted := by
  induction items with
  | nil => rfl
  | cons item rest ih => rw [sortedItems, ih, List.map_cons]

theorem sortedMembers_eq_map (members : Members) :
    sortedMembers members = members.map fun member => (member.1, member.2.sorted) := by
  induction members with
  | nil => rfl
  | cons member rest ih => rw [sortedMembers, ih, List.map_cons]

@[simp] theorem names_sortedMembers (members : Members) :
    Members.names (sortedMembers members) = members.names := by
  rw [sortedMembers_eq_map, Members.names, List.map_map]
  rfl

theorem get?_sortedMembers (members : Members) (key : String) :
    Members.get? (sortedMembers members) key = (members.get? key).map sorted := by
  induction members with
  | nil => rfl
  | cons member rest ih =>
    obtain ⟨name, value⟩ := member
    rw [sortedMembers, Members.get?_cons, Members.get?_cons, ih]
    split <;> rfl

theorem wellFormedItems_iff (items : List Json) :
    WellFormedItems items ↔ ∀ item ∈ items, item.WellFormed := by
  induction items with
  | nil => simp [WellFormedItems]
  | cons item rest ih => rw [WellFormedItems, ih, List.forall_mem_cons]

theorem wellFormedMembers_iff (members : Members) :
    WellFormedMembers members ↔ ∀ member ∈ members, member.2.WellFormed := by
  induction members with
  | nil => simp [WellFormedMembers]
  | cons member rest ih => rw [WellFormedMembers, ih, List.forall_mem_cons]

theorem wellFormed_object_iff (members : Members) :
    (Json.object members).WellFormed ↔
      Ascending members ∧ ∀ member ∈ members, member.2.WellFormed := by
  rw [WellFormed, wellFormedMembers_iff]
  rfl

theorem wellFormed_array_iff (items : List Json) :
    (Json.array items).WellFormed ↔ ∀ item ∈ items, item.WellFormed := by
  rw [WellFormed, wellFormedItems_iff]

theorem WellFormed.of_get? {members : Members} {key : String} {value : Json}
    (h : (Json.object members).WellFormed) (hget : members.get? key = some value) :
    value.WellFormed :=
  ((wellFormed_object_iff members).mp h).2 _ (Members.mem_of_get?_eq_some hget)

mutual

theorem sorted_of_wellFormed : ∀ (value : Json), value.WellFormed → value.sorted = value
  | .null, _ | .bool _, _ | .number _, _ | .string _, _ => rfl
  | .array items, h => by
    rw [WellFormed] at h
    rw [sorted, sortedItems_of_wellFormed items h]
  | .object members, h => by
    rw [WellFormed] at h
    rw [sorted, sortedMembers_of_wellFormed members h.2, Members.ordered_of_ascending h.1]

theorem sortedItems_of_wellFormed :
    ∀ (items : List Json), WellFormedItems items → sortedItems items = items
  | [], _ => rfl
  | item :: rest, h => by
    rw [WellFormedItems] at h
    rw [sortedItems, sorted_of_wellFormed item h.1, sortedItems_of_wellFormed rest h.2]

theorem sortedMembers_of_wellFormed :
    ∀ (members : List (String × Json)), WellFormedMembers members → sortedMembers members = members
  | [], _ => rfl
  | (name, value) :: rest, h => by
    rw [WellFormedMembers] at h
    rw [sortedMembers, sorted_of_wellFormed value h.1, sortedMembers_of_wellFormed rest h.2]

end

mutual

theorem wellFormed_sorted : ∀ (value : Json), value.sorted.WellFormed
  | .null | .bool _ | .number _ | .string _ => trivial
  | .array items => by
    rw [sorted, wellFormed_array_iff]
    exact wellFormed_sortedItems items
  | .object members => by
    rw [sorted, wellFormed_object_iff]
    refine ⟨Members.ascending_ordered _, fun member hm => ?_⟩
    exact wellFormed_sortedMembers members member (Members.mem_ordered hm)

theorem wellFormed_sortedItems :
    ∀ (items : List Json), ∀ item ∈ sortedItems items, item.WellFormed
  | [], _, h => by simp [sortedItems] at h
  | first :: rest, item, h => by
    rw [sortedItems, List.mem_cons] at h
    rcases h with rfl | h
    · exact wellFormed_sorted first
    · exact wellFormed_sortedItems rest item h

theorem wellFormed_sortedMembers :
    ∀ (members : List (String × Json)), ∀ member ∈ sortedMembers members, member.2.WellFormed
  | [], _, h => by simp [sortedMembers] at h
  | (name, value) :: rest, member, h => by
    rw [sortedMembers, List.mem_cons] at h
    rcases h with rfl | h
    · exact wellFormed_sorted value
    · exact wellFormed_sortedMembers rest member h

end

theorem sorted_object (members : Members) (hnodup : members.names.Nodup) :
    ∃ target : Members, (Json.object members).sorted = .object target ∧ Ascending target ∧
      ∀ key, target.get? key = (members.get? key).map sorted := by
  refine ⟨_, rfl, Members.ascending_ordered _, fun key => ?_⟩
  rw [Members.get?_ordered (by rwa [names_sortedMembers]), get?_sortedMembers]

end Json

end LspWire
