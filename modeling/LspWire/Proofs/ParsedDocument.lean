import LspWire.Json.Reader
import LspWire.Proofs.ExceptStep
import LspWire.Proofs.OrderedMembers

/-! Documents read from text are well formed.
Lists and objects are well formed when the reader of what stands in them gives well-formed values;
objects are put in order as they are closed. The depth bounds the induction. -/

namespace LspWire.Json

open Text (Octets)

def Reader.GivesWellFormed (reader : Reader Json) : Prop :=
  ∀ s value rest, reader s = .ok (value, rest) → value.WellFormed

theorem readWord_value (value : Json) (letters s : Octets) {found : Json} {rest : Rest s}
    (h : readWord value letters s = .ok (found, rest)) : found = value := by
  induction letters generalizing s with
  | nil => cases h; rfl
  | cons letter letters ih =>
    cases s with
    | nil => cases h
    | cons b behind =>
      rw [readWord] at h
      split at h
      · obtain ⟨result, hread, hreturn⟩ := bind_eq_ok_iff.mp h
        cases hreturn
        exact ih behind hread
      · cases h

theorem wellFormed_of_readItems {item : Reader Json} (hitem : item.GivesWellFormed)
    (first : Bool) (s : Octets) {items : List Json} {rest : Rest s}
    (h : readItems item first s = .ok (items, rest)) : ∀ value ∈ items, value.WellFormed := by
  fun_induction readItems item first s generalizing items with
  | case1 first s ih =>
    obtain ⟨⟨more, start⟩, -, h⟩ := bind_eq_ok_iff.mp h
    dsimp only at h
    split at h
    · obtain ⟨⟨value, behind⟩, hvalue, h⟩ := bind_eq_ok_iff.mp h
      obtain ⟨⟨values, behind'⟩, hvalues, h⟩ := bind_eq_ok_iff.mp h
      cases h
      rw [List.forall_mem_cons]
      exact ⟨hitem _ _ _ hvalue, ih start behind hvalues⟩
    · cases h
      intro value hm
      cases hm

theorem wellFormed_of_readMembers {held : Reader Json} (hheld : held.GivesWellFormed)
    (first : Bool) (s : Octets) {members : List (String × Json)} {rest : Rest s}
    (h : readMembers held first s = .ok (members, rest)) :
    ∀ member ∈ members, member.2.WellFormed := by
  fun_induction readMembers held first s generalizing members with
  | case1 first s ih =>
    obtain ⟨⟨more, start⟩, -, h⟩ := bind_eq_ok_iff.mp h
    dsimp only at h
    split at h
    · obtain ⟨⟨key, behindKey⟩, -, h⟩ := bind_eq_ok_iff.mp h
      obtain ⟨behindColon, -, h⟩ := bind_eq_ok_iff.mp h
      obtain ⟨⟨value, behind⟩, hvalue, h⟩ := bind_eq_ok_iff.mp h
      obtain ⟨⟨members, behind'⟩, hmembers, h⟩ := bind_eq_ok_iff.mp h
      cases h
      rw [List.forall_mem_cons]
      exact ⟨hheld _ _ _ hvalue, ih start behindKey behindColon behind hmembers⟩
    · cases h
      intro value hm
      cases hm

theorem wellFormed_of_readFrom {inside : Option (Reader Json)}
    (hinside : ∀ reader ∈ inside, reader.GivesWellFormed) (b : UInt8) (s : Octets) {value : Json}
    {rest : Rest s} (h : readFrom inside b s = .ok (value, rest)) : value.WellFormed := by
  unfold readFrom at h
  split at h
  · rw [readWord_value _ _ _ h]; trivial
  split at h
  · rw [readWord_value _ _ _ h]; trivial
  split at h
  · rw [readWord_value _ _ _ h]; trivial
  split at h
  · obtain ⟨n, -, h⟩ := bind_eq_ok_iff.mp h
    cases h
    trivial
  split at h
  · obtain ⟨text, -, h⟩ := bind_eq_ok_iff.mp h
    cases h
    trivial
  split at h
  · cases inside with
    | none => cases h
    | some reader =>
      obtain ⟨⟨items, behind⟩, hitems, h⟩ := bind_eq_ok_iff.mp h
      cases h
      rw [wellFormed_array_iff]
      exact wellFormed_of_readItems (hinside reader rfl) _ _ hitems
  split at h
  · cases inside with
    | none => cases h
    | some reader =>
      obtain ⟨⟨members, behind⟩, hmembers, h⟩ := bind_eq_ok_iff.mp h
      cases h
      rw [wellFormed_object_iff]
      refine ⟨Members.ascending_ordered members, fun member hm => ?_⟩
      exact wellFormed_of_readMembers (hinside reader rfl) _ _ hmembers member
        (Members.mem_ordered hm)
  · cases h

theorem readBehindBlank_givesWellFormed {inside : Option (Reader Json)}
    (hinside : ∀ reader ∈ inside, reader.GivesWellFormed) :
    Reader.GivesWellFormed (readBehindBlank inside) := by
  intro s value rest h
  rw [readBehindBlank] at h
  split at h
  · cases h
  split at h
  · obtain ⟨n, -, h⟩ := bind_eq_ok_iff.mp h
    cases h
    trivial
  · obtain ⟨⟨found, behind⟩, hfound, h⟩ := bind_eq_ok_iff.mp h
    cases h
    exact wellFormed_of_readFrom hinside _ _ hfound

theorem readValue_givesWellFormed (depth : Nat) : Reader.GivesWellFormed (readValue depth) := by
  induction depth with
  | zero => exact readBehindBlank_givesWellFormed (by simp)
  | succ depth ih => exact readBehindBlank_givesWellFormed (by simpa using ih)

theorem wellFormed_of_parse {s : Octets} {value : Json} (h : parse s = .ok value) :
    value.WellFormed := by
  obtain ⟨⟨found, rest⟩, hfound, h⟩ := bind_eq_ok_iff.mp h
  dsimp only at h
  split at h
  · cases h
    exact readValue_givesWellFormed maxDepth _ _ _ hfound
  · cases h

end LspWire.Json
