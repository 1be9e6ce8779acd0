import LspWire.Proofs.OrderedMembers
import LspWire.Proofs.TypePart
import Mathlib.Data.Option.Basic

/-! Documents that lost keys.
A document is another one pruned if only members of objects are missing from it. Read as values of a
type it is the other one trimmed if these members are, in the records of the type, just those whose
keys the record does not declare; what the type holds as JSON is then kept whole, and so are the
keys of maps. Where undeclared keys are refused, a trimmed document is the document itself. -/

namespace LspWire

/-- Some members of objects are missing from the first document, and nothing else differs. -/
inductive Json.Pruned : Json → Json → Prop where
  | same (value : Json) : value.Pruned value
  | item {kept held : Json} {rest items : List Json} (h : kept.Pruned held)
      (hrest : (Json.array rest).Pruned (.array items)) :
      (Json.array (kept :: rest)).Pruned (.array (held :: items))
  | keep (key : String) {kept held : Json} {rest members : Members} (h : kept.Pruned held)
      (hrest : (Json.object rest).Pruned (.object members)) :
      (Json.object ((key, kept) :: rest)).Pruned (.object ((key, held) :: members))
  | drop (member : String × Json) {kept members : Members}
      (h : (Json.object kept).Pruned (.object members)) :
      (Json.object kept).Pruned (.object (member :: members))

namespace Json

def isScalar : Json → Bool
  | .array _ | .object _ => false
  | _ => true

theorem Pruned.exists_object {kept : Json} {members : Members} (h : kept.Pruned (.object members)) :
    ∃ rest, kept = .object rest := by
  cases h <;> exact ⟨_, rfl⟩

theorem Pruned.of_get? {kept members : Members} (hkept : Ascending kept)
    (hmembers : Ascending members)
    (h : ∀ key a, kept.get? key = some a → ∃ b, members.get? key = some b ∧ a.Pruned b) :
    (object kept).Pruned (.object members) := by
  induction members generalizing kept with
  | nil =>
    cases kept with
    | nil => exact .same _
    | cons member rest =>
      obtain ⟨b, hb, -⟩ := h member.1 member.2 (by rw [Members.get?_cons, if_pos rfl])
      cases hb
  | cons other members ih =>
    obtain ⟨name, held⟩ := other
    obtain ⟨hfirst, hascending⟩ := List.pairwise_cons.mp hmembers
    by_cases hname : kept.get? name = none
    · refine .drop _ (ih hkept hascending fun key a ha => ?_)
      obtain ⟨b, hb, hpruned⟩ := h key a ha
      have hne : name ≠ key := fun heq => by rw [← heq, hname] at ha; cases ha
      rw [Members.get?_cons, if_neg hne] at hb
      exact ⟨b, hb, hpruned⟩
    · cases kept with
      | nil => exact absurd rfl hname
      | cons first rest =>
        obtain ⟨own, value⟩ := first
        have hown : own = name := by
          by_contra hne
          rw [Members.get?_cons, if_neg hne] at hname
          obtain ⟨b, hb, -⟩ := h own value (by rw [Members.get?_cons, if_pos rfl])
          rw [Members.get?_cons, if_neg (Ne.symm hne)] at hb
          have hlt := hfirst _ (Members.mem_of_get?_eq_some hb)
          have hnone := Members.get?_eq_none_of_ascending hkept (.inr hlt)
          exact hname hnone
        subst hown
        obtain ⟨b, hb, hpruned⟩ := h own value (by rw [Members.get?_cons, if_pos rfl])
        rw [Members.get?_cons, if_pos rfl] at hb
        cases hb
        refine .keep own hpruned (ih (List.pairwise_cons.mp hkept).2 hascending fun key a ha => ?_)
        have hne : own ≠ key := fun heq => by
          rw [Members.get?_eq_none_of_ascending hkept (.inl heq.symm)] at ha
          cases ha
        obtain ⟨b, hb, hrest⟩ := h key a (by rwa [Members.get?_cons, if_neg hne])
        rw [Members.get?_cons, if_neg hne] at hb
        exact ⟨b, hb, hrest⟩

end Json

/-- Read as the type, the first document is the second one without keys that its records do not
declare; where undeclared keys are refused there are none. -/
inductive Schema.Trims (options : DecodeOptions) : Schema → Json → Json → Prop where
  | scalar {s : Schema} {value : Json} (h : value.isScalar = true) : Trims options s value value
  | any (value : Json) : Trims options .any value value
  | object (value : Json) : Trims options .object value value
  | nil (item : Schema) : Trims options (.list item) (.array []) (.array [])
  | item {item : Schema} {kept held : Json} {rest items : List Json}
      (h : Trims options item kept held)
      (hrest : Trims options (.list item) (.array rest) (.array items)) :
      Trims options (.list item) (.array (kept :: rest)) (.array (held :: items))
  | empty (item : Schema) : Trims options (.map item) (.object []) (.object [])
  | entry {item : Schema} (key : String) {kept held : Json} {rest members : Members}
      (h : Trims options item kept held)
      (hrest : Trims options (.map item) (.object rest) (.object members)) :
      Trims options (.map item) (.object ((key, kept) :: rest)) (.object ((key, held) :: members))
  | nullable {item : Schema} {kept held : Json} (h : Trims options item kept held) :
      Trims options (.nullable item) kept held
  | record {name : String} {fields : Fields} {kept members : Members}
      (hkept : ∀ key ∈ kept.names, key ∈ fields.keys)
      (hstrict : options.rejectUnknownFields = true → ∀ key ∈ members.names, key ∈ fields.keys)
      (hkeys : ∀ key ∈ fields.keys, (kept.get? key).isSome = (members.get? key).isSome)
      (h : ∀ key mode type a b, (key, mode, type) ∈ fields.readings → kept.get? key = some a →
        members.get? key = some b → Trims options type a b) :
      Trims options (.record name fields) (.object kept) (.object members)
  | union {name : String} {variants : Variants} {type : Schema} {kept held : Json}
      (htype : type ∈ variants.types) (h : Trims options type kept held) :
      Trims options (.union name variants) kept held
  | marked {name key : String} {variants : Variants} {word : Option String} {type : Schema}
      {kept held : Json} (hword : Decoder.markUnder key held = some word)
      (htype : variants.typeOf? word = some type) (h : Trims options type kept held) :
      Trims options (.marked name key variants) kept held

namespace Schema.Trims

variable {options : DecodeOptions} {s : Schema} {kept held : Json}

theorem record_of_rel {name : String} {fields : Fields} {kept members : Members}
    (hkept : ∀ key ∈ kept.names, key ∈ fields.keys)
    (hstrict : options.rejectUnknownFields = true → ∀ key ∈ members.names, key ∈ fields.keys)
    (h : ∀ entry ∈ fields.readings,
      Option.Rel (Trims options entry.2.2) (kept.get? entry.1) (members.get? entry.1)) :
    Trims options (.record name fields) (.object kept) (.object members) := by
  refine .record hkept hstrict (fun key hkey => ?_) fun key mode type a b hfield ha hb => ?_
  · obtain ⟨mode, type, hfield⟩ := Fields.mem_keys_iff.mp hkey
    have hrel := h _ hfield
    cases ha : kept.get? key <;> cases hb : members.get? key <;> rw [ha, hb] at hrel
    · cases hrel
    · cases hrel
    · rfl
  · have hrel := h _ hfield
    rw [ha, hb] at hrel
    cases hrel with
    | some hrel => exact hrel

theorem relax (h : Trims .strict s kept held) (options : DecodeOptions) :
    Trims options s kept held := by
  induction h with
  | scalar h => exact .scalar h
  | any value => exact .any value
  | object value => exact .object value
  | nil item => exact .nil item
  | item _ _ ih ihrest => exact .item ih ihrest
  | empty item => exact .empty item
  | entry key _ _ ih ihrest => exact .entry key ih ihrest
  | nullable _ ih => exact .nullable ih
  | record hkept hstrict hkeys _ ih => exact .record hkept (fun _ => hstrict rfl) hkeys ih
  | union htype _ ih => exact .union htype ih
  | marked hword htype _ ih => exact .marked hword htype ih

theorem pruned (h : Trims options s kept held) (hwf : kept.WellFormed) (hwf' : held.WellFormed) :
    kept.Pruned held := by
  induction h with
  | scalar | any | object | nil | empty => exact .same _
  | item _ _ ih ihrest =>
    rw [Json.WellFormed, Json.WellFormedItems] at hwf hwf'
    exact .item (ih hwf.1 hwf'.1) (ihrest hwf.2 hwf'.2)
  | entry key _ _ ih ihrest =>
    rw [Json.WellFormed, Json.WellFormedMembers, List.pairwise_cons] at hwf hwf'
    exact .keep key (ih hwf.2.1 hwf'.2.1)
      (ihrest ⟨hwf.1.2, hwf.2.2⟩ ⟨hwf'.1.2, hwf'.2.2⟩)
  | nullable _ ih => exact ih hwf hwf'
  | @record name fields kept members hkept hstrict hkeys _ ih =>
    refine .of_get? hwf.1 hwf'.1 fun key a ha => ?_
    have hkey : key ∈ fields.keys := hkept key (by rw [Members.mem_names_iff, ha]; rfl)
    obtain ⟨b, hb⟩ := Option.isSome_iff_exists.mp ((hkeys key hkey).symm.trans (by rw [ha]; rfl))
    obtain ⟨mode, type, hfield⟩ := Fields.mem_keys_iff.mp hkey
    exact ⟨b, hb, ih key mode type a b hfield ha hb (hwf.of_get? ha) (hwf'.of_get? hb)⟩
  | union _ _ ih => exact ih hwf hwf'
  | marked _ _ _ ih => exact ih hwf hwf'

theorem eq_of_strict (h : Trims options s kept held)
    (hoptions : options.rejectUnknownFields = true) (hwf : kept.WellFormed)
    (hwf' : held.WellFormed) : kept = held := by
  induction h with
  | scalar | any | object | nil | empty => rfl
  | item _ _ ih ihrest =>
    rw [Json.WellFormed, Json.WellFormedItems] at hwf hwf'
    rw [ih hwf.1 hwf'.1, Json.array.inj (ihrest hwf.2 hwf'.2)]
  | entry key _ _ ih ihrest =>
    rw [Json.WellFormed, Json.WellFormedMembers, List.pairwise_cons] at hwf hwf'
    rw [ih hwf.2.1 hwf'.2.1,
      Json.object.inj (ihrest ⟨hwf.1.2, hwf.2.2⟩ ⟨hwf'.1.2, hwf'.2.2⟩)]
  | nullable _ ih => exact ih hwf hwf'
  | @record name fields kept members hkept hstrict hkeys _ ih =>
    refine congrArg Json.object (Members.eq_of_get?_eq hwf.1 hwf'.1 fun key => ?_)
    by_cases hkey : key ∈ fields.keys
    · have hsome := hkeys key hkey
      obtain ⟨mode, type, hfield⟩ := Fields.mem_keys_iff.mp hkey
      cases ha : kept.get? key <;> cases hb : members.get? key <;> rw [ha, hb] at hsome
      · cases hsome
      · cases hsome
      · rw [ih key mode type _ _ hfield ha hb (hwf.of_get? ha) (hwf'.of_get? hb)]
    · rw [(Members.get?_eq_none_iff kept key).mpr fun hm => hkey (hkept key hm),
        (Members.get?_eq_none_iff members key).mpr fun hm => hkey (hstrict hoptions key hm)]
  | union _ _ ih => exact ih hwf hwf'
  | marked _ _ _ ih => exact ih hwf hwf'

end Schema.Trims

end LspWire
