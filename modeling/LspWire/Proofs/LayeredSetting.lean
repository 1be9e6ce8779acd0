import LspWire.Config.Reader
import LspWire.Proofs.StackedLayer

/-! What layers say of a setting.
Laid on each other, layers whose tables are objects show of every setting what the topmost layer
says that says anything. Where two layers hold an object the members of both show; no setting is an
object, so it is enough to know values up to the members of an object. -/

namespace LspWire

namespace Json

def outline : Json → Json
  | .object _ => .object []
  | other => other

theorem outline_eq_iff {value plain : Json} (h : ∀ members, plain ≠ .object members) :
    value.outline = plain.outline ↔ value = plain := by
  cases value <;> cases plain <;> simp_all [outline]

theorem outline_above {value : Json} (h : value ≠ .null) (held : Option Json) :
    (value.above held).outline = value.outline := by
  cases held with
  | none => rfl
  | some below =>
    rw [above_some]
    cases value with
    | null => exact absurd rfl h
    | object members => cases below <;> simp [stack, outline]
    | _ => rw [stack_of_not_object (by simp) (by simp)]

def table (name : String) (layer : Json) : Members :=
  match layer.get? name with
  | some (.object members) => members
  | _ => []

def setting? (name key : String) (layer : Json) : Option Json :=
  ((layer.table name).get? key).bind said?

/-- What the topmost layer says of a setting that says anything of it, the topmost first. -/
def firstSaid? (name key : String) (layers : List Json) : Option Json :=
  layers.findSome? (setting? name key)

@[simp] theorem firstSaid?_nil (name key : String) : firstSaid? name key [] = none := rfl

@[simp] theorem firstSaid?_cons (name key : String) (layer : Json) (layers : List Json) :
    firstSaid? name key (layer :: layers) =
      (layer.setting? name key).or (firstSaid? name key layers) := by
  rw [firstSaid?, List.findSome?_cons]
  cases layer.setting? name key <;> rfl

theorem firstSaid?_append (name key : String) (upper lower : List Json) :
    firstSaid? name key (upper ++ lower) =
      (firstSaid? name key upper).or (firstSaid? name key lower) :=
  List.findSome?_append

def isObject : Json → Bool
  | .object _ => true
  | _ => false

/-- An object whose tables of settings are objects, where they are there and not null. -/
def isLayer (layer : Json) : Bool :=
  layer.isObject && Config.sections.all fun setting =>
    (layer.get? setting.key).all fun value => value.isNull || value.isObject

@[simp] theorem bind_said?_said? (value : Json) : value.said?.bind said? = value.said? := by
  cases value <;> rfl

/-- What is held shows what is said, up to the members of an object; a null shows nothing. -/
def Shows (held said : Option Json) : Prop := (held.bind said?).map outline = said.map outline

theorem table_of_get? {members table : Members} {name : String}
    (h : members.get? name = some (.object table)) : (object members).table name = table := by
  simp [Json.table, h]

theorem said?_stackMembers {table : Members} (h : table.names.Nodup) (below : Members)
    (key : String) :
    ((Members.get? (stackMembers below table) key).bind said?).map outline =
      (((table.get? key).bind said?).or ((below.get? key).bind said?)).map outline := by
  rw [get?_stackMembers h]
  cases table.get? key with
  | none => simp
  | some value =>
    by_cases hnull : value = .null
    · subst hnull
      cases below.get? key <;> simp [stack_null]
    · simp [said?_of_ne_null (above_ne_null hnull _), said?_of_ne_null hnull, outline_above hnull]

theorem isLayer_iff (members : Members) :
    (object members).isLayer ↔ ∀ setting ∈ Config.sections, ∀ value,
      members.get? setting.key = some value → value = .null ∨ ∃ table, value = .object table := by
  have htable (value : Json) : (value.isNull || value.isObject) = true ↔
      value = .null ∨ ∃ table, value = .object table := by
    cases value <;> simp [isNull, isObject]
  have hobject : (object members).isObject = true := rfl
  simp only [isLayer, hobject, Bool.true_and, List.all_eq_true, Option.all_eq_true, htable,
    get?_object]

structure Whole (members : Members) : Prop where
  ascending : Ascending members
  tables : ∀ setting ∈ Config.sections, ∃ table,
    members.get? setting.key = some (.object table) ∧ Ascending table

theorem get?_table_stackMembers {below members held : Members} {setting : Config.Setting Config}
    (hsetting : setting ∈ Config.sections) (hbelow : below.get? setting.key = some (.object held))
    (hwf : (object members).WellFormed) (hlayer : (object members).isLayer) :
    Members.get? (stackMembers below members) setting.key =
      some (.object (stackMembers held ((object members).table setting.key))) := by
  rw [get?_stackMembers ((wellFormed_object_iff members).mp hwf).1.names_nodup, hbelow, Json.table,
    get?_object]
  have htable := (isLayer_iff members).mp hlayer setting hsetting
  cases hmembers : members.get? setting.key with
  | none => simp [stackMembers]
  | some value =>
    rcases htable value hmembers with rfl | ⟨table, rfl⟩
    · simp [stack_null, stackMembers, said?, isNull]
    · simp [stack_objects, said?, isNull]

theorem table_names_nodup {members : Members} (hwf : (object members).WellFormed)
    (name : String) : ((object members).table name).names.Nodup := by
  unfold Json.table
  split
  · next table htable =>
    exact ((wellFormed_object_iff table).mp (hwf.of_get? htable)).1.names_nodup
  · exact List.nodup_nil

theorem Whole.stack {below members : Members} (h : Whole below)
    (hwf : (object members).WellFormed) (hlayer : (object members).isLayer) :
    Whole (stackMembers below members) where
  ascending := ascending_stackMembers h.ascending members
  tables setting hsetting := by
    obtain ⟨held, hheld, hascending⟩ := h.tables setting hsetting
    exact ⟨_, get?_table_stackMembers hsetting hheld hwf hlayer,
      ascending_stackMembers hascending _⟩

theorem Whole.setting?_stack {below members : Members} (h : Whole below)
    (hwf : (object members).WellFormed) (hlayer : (object members).isLayer)
    {setting : Config.Setting Config} (hsetting : setting ∈ Config.sections) (key : String) :
    ((object (stackMembers below members)).setting? setting.key key).map outline =
      (((object members).setting? setting.key key).or
        ((object below).setting? setting.key key)).map outline := by
  obtain ⟨held, hheld, -⟩ := h.tables setting hsetting
  rw [setting?, table_of_get? (get?_table_stackMembers hsetting hheld hwf hlayer),
    said?_stackMembers (table_names_nodup hwf _), setting?, setting?, table_of_get? hheld]

theorem Whole.foldl_stack {layers : List Json} {below : Members} (h : Whole below)
    (hlayers : ∀ layer ∈ layers, layer.WellFormed ∧ layer.isLayer) :
    ∃ merged, layers.foldl Json.stack (.object below) = .object merged ∧ Whole merged ∧
      ∀ setting ∈ Config.sections, ∀ key,
        ((object merged).setting? setting.key key).map outline =
          (firstSaid? setting.key key (layers.reverse ++ [.object below])).map outline := by
  induction layers generalizing below with
  | nil => exact ⟨below, rfl, h, fun setting _ key => by simp⟩
  | cons layer rest ih =>
    obtain ⟨⟨hwf, hlayer⟩, hrest⟩ := List.forall_mem_cons.mp hlayers
    cases layer with
    | object members =>
      obtain ⟨merged, hmerged, hwhole, hsaid⟩ := ih (h.stack hwf hlayer) hrest
      rw [← stack_objects] at hmerged
      refine ⟨merged, hmerged, hwhole, fun setting hsetting key => ?_⟩
      -- The layer laid on first is the last that is asked before `below`.
      have hstep := h.setting?_stack hwf hlayer hsetting key
      simp only [hsaid setting hsetting key, List.reverse_cons, List.append_assoc,
        firstSaid?_append, Option.map_or, firstSaid?_cons, firstSaid?_nil, Option.or_none, hstep]
    | _ => cases hlayer

end Json

end LspWire
